import Mathlib.Data.List.Sort
import InteriorPoint.Proofs.Linear.Fitting

/-!
# `InteriorPoint.Proofs.Bounds.Position`: where a coordinate stands in a selection

A vector over a selection has one entry per selected coordinate, and the
`k`-th entry belongs to the `k`-th selected coordinate. `position? i` is
this `k` for coordinate `i`, if `i` is selected at all. There is only one
`k` (`position?_eq_some_iff`) because the coordinates increase strictly, and
everything that is said of single coordinates rests on that.

Adding at coordinates treats every entry by itself: entry `i` stays as it is, or
it grows by the multiple of the entry at the place of `i`
(`gives_scatterAdd_position`). No law of arithmetic is used for that.

A selection is determined by the coordinates it contains: its list is the
space in order, without the others (`indices_eq_filter_range`). So something
counted over the list can be counted over the space (`countP_indices`).
-/

set_option autoImplicit false

namespace InteriorPoint.Selection

/-- No coordinate is selected twice. -/
theorem nodup_indices (selection : Selection) : selection.indices.Nodup :=
  selection.increasing.imp Nat.ne_of_lt

/-- The number `k` such that `i` is the `k`-th selected coordinate, counted
from zero. -/
def position? (selection : Selection) (i : Nat) : Option Nat :=
  selection.indices.idxOf? i

variable {selection : Selection} {i k : Nat}

/-- The place of a coordinate is where it stands in the list. -/
theorem position?_eq_some_iff :
    selection.position? i = some k ↔ selection.indices[k]? = some i := by
  show selection.indices.idxOf? i = some k ↔ _
  rw [List.idxOf?_eq_some_iff, List.getElem?_eq_some_iff]
  constructor
  · rintro ⟨hk, hi, -⟩
    exact ⟨hk, hi⟩
  · rintro ⟨hk, hi⟩
    refine ⟨hk, hi, ?_⟩
    -- Two places of one list of distinct coordinates hold different ones.
    intro j hj hij
    have hjk := (selection.nodup_indices.getElem_inj_iff).1 (hij.trans hi.symm)
    omega

/-- Coordinates without a place are those not selected. -/
theorem position?_eq_none_iff : selection.position? i = none ↔ i ∉ selection.indices :=
  List.idxOf?_eq_none_iff

/-- The place of a coordinate lies within the selection. -/
theorem lt_size_of_position? (h : selection.position? i = some k) : k < selection.size := by
  obtain ⟨hk, -⟩ := List.getElem?_eq_some_iff.1 (position?_eq_some_iff.1 h)
  exact hk

/-! ### Adding at coordinates -/

section
open Checked (Gives)

variable {α : Type} [Scalar α]

/-- A row of additions at distinct places changes each entry at most once.
-/
theorem gives_addAt_position (alpha : α) {indices : List Nat} (hnodup : indices.Nodup)
    {v target : List α} (hv : v.length = indices.length)
    (htarget : ∀ i ∈ indices, i < target.length) :
    Gives (addAt alpha indices v target) fun result => result.length = target.length
      ∧ ∀ i, result.getD i 0 = (indices.idxOf? i).elim (target.getD i 0)
          fun k => target.getD i 0 + alpha * v.getD k 0 := by
  induction indices generalizing v target with
  | nil => exact .of_eq rfl ⟨rfl, fun _ => rfl⟩
  | cons j indices ih =>
      obtain ⟨hj, hrest⟩ := List.forall_mem_cons.1 htarget
      obtain ⟨hfresh, hnodup⟩ := List.nodup_cons.1 hnodup
      cases v with
      | nil => cases hv
      | cons entry v =>
          have hlength : (target.set j (target[j] + alpha * entry)).length = target.length :=
            List.length_set
          simp only [addAt, List.getElem?_eq_getElem hj]
          refine (ih hnodup (Nat.succ.inj hv) fun i hi => ?_).mono fun result hresult => ?_
          · rw [hlength]
            exact hrest i hi
          · obtain ⟨hsize, hentry⟩ := hresult
            refine ⟨hsize.trans hlength, ?_⟩
            intro i
            rw [hentry i, List.idxOf?_cons]
            by_cases hij : j = i
            · -- This entry changes here and in no later step.
              subst hij
              rw [List.idxOf?_eq_none_iff.2 hfresh]
              simp [List.getD_eq_getElem?_getD, hj]
            · have hother : (target.set j (target[j] + alpha * entry)).getD i 0
                  = target.getD i 0 := by
                simp [List.getD_eq_getElem?_getD, List.getElem?_set_ne hij]
              rw [beq_eq_false_iff_ne.2 hij, hother]
              cases indices.idxOf? i <;> rfl

/-- What stands at a coordinate after a multiple of `P v` was added. -/
theorem gives_scatterAdd_position (selection : Selection) (alpha : α) {v target : List α}
    (hv : v.length = selection.size) (htarget : target.length = selection.dim) :
    Gives (selection.scatterAdd alpha v target) fun result => result.length = selection.dim
      ∧ ∀ i, result.getD i 0 = (selection.position? i).elim (target.getD i 0)
          fun k => target.getD i 0 + alpha * v.getD k 0 := by
  rw [← htarget]
  refine gives_addAt_position alpha selection.nodup_indices hv fun i hi => ?_
  rw [htarget]
  exact selection.bounded i hi

end

/-! ### The list and the space -/

/-- The list of a selection is the space in order, without the coordinates
that are not selected. -/
theorem indices_eq_filter_range (selection : Selection) :
    selection.indices = (List.range selection.dim).filter (· ∈ selection.indices) := by
  refine selection.increasing.eq_of_mem_iff (List.pairwise_lt_range.filter _) fun i => ?_
  have hbounded := selection.bounded i
  simp only [List.mem_filter, List.mem_range, decide_eq_true_eq]
  tauto

/-- What is counted over the list is counted over the space, among the
selected coordinates. -/
theorem countP_indices (selection : Selection) (p : Nat → Bool) :
    selection.indices.countP p
      = (List.range selection.dim).countP fun i => p i && decide (i ∈ selection.indices) := by
  conv_lhs => rw [indices_eq_filter_range]
  rw [List.countP_filter]

end InteriorPoint.Selection
