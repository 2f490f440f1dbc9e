import InteriorPoint.Bounds
import InteriorPoint.Linear.Operator
import InteriorPoint.Proofs.Checked
import InteriorPoint.Slack
import InteriorPoint.StepLimit

/-!
# `InteriorPoint.Proofs.Linear.Fitting`: operations on operands that fit

An elementary operation is defined for operands that fit together and
reports `Error.misaligned` otherwise. Each lemma here says for one
operation which sizes fit, and what size the result then has. They are
stated with `Checked.Gives`: there is a result, and it has a property.
-/

set_option autoImplicit false

namespace InteriorPoint

/-- There is a result, and it satisfies `returns`. -/
def Checked.Gives {α β : Type} (checked : Checked α β) (returns : β → Prop) : Prop :=
  ∃ value, checked = .ok value ∧ returns value

namespace Checked

variable {α β γ : Type} {returns : β → Prop}

/-- Two steps that give results one after the other form a chain that
does. -/
theorem Gives.bind {checked : Checked α β} {next : β → Checked α γ} {returns' : γ → Prop}
    (h : Gives checked returns) (hnext : ∀ value, returns value → Gives (next value) returns') :
    Gives (checked >>= next) returns' := by
  obtain ⟨value, rfl, hvalue⟩ := h
  exact hnext value hvalue

/-- A weaker property of the result holds as well. -/
theorem Gives.mono {checked : Checked α β} {returns' : β → Prop} (h : Gives checked returns)
    (himp : ∀ value, returns value → returns' value) : Gives checked returns' := by
  obtain ⟨value, hvalue, hreturns⟩ := h
  exact ⟨value, hvalue, himp value hreturns⟩

/-- What holds of the result holds of the value that was returned. -/
theorem Gives.of_eq_ok {checked : Checked α β} {value : β} (h : Gives checked returns)
    (hvalue : checked = .ok value) : returns value := by
  obtain ⟨result, hresult, hreturns⟩ := h
  rw [hresult] at hvalue
  cases hvalue
  exact hreturns

/-- Returning a value gives it. -/
theorem gives_pure {value : β} (h : returns value) :
    Gives (pure value : Checked α β) returns :=
  ⟨value, rfl, h⟩

/-- A computation that is known to come to a value gives it. -/
theorem Gives.of_eq {checked : Checked α β} {value : β} (h : checked = .ok value)
    (hvalue : returns value) : Gives checked returns :=
  ⟨value, h, hvalue⟩

end Checked

variable {α : Type}

namespace Linear

open Checked (Gives)

variable {u v : List α} {n : Nat}

/-- Vectors of one length can be combined entry by entry. -/
theorem gives_pairwise (f : α → α → α) (hu : u.length = n) (hv : v.length = n) :
    Gives (pairwise f u v) fun result => result.length = n := by
  refine .of_eq (if_pos (hu.trans hv.symm)) ?_
  rw [List.length_zipWith, hu, hv, Nat.min_self]

/-- Only operands of equal length have a result. -/
theorem pairwise_eq_ok {f : α → α → α} {w : List α} :
    pairwise f u v = .ok w ↔ u.length = v.length ∧ List.zipWith f u v = w := by
  unfold pairwise
  split <;> simp [*]

variable [Scalar α]

/-- Vectors of one length can be added. -/
theorem gives_add (hu : u.length = n) (hv : v.length = n) :
    Gives (add u v) fun result => result.length = n :=
  gives_pairwise _ hu hv

/-- They can be subtracted. -/
theorem gives_sub (hu : u.length = n) (hv : v.length = n) :
    Gives (sub u v) fun result => result.length = n :=
  gives_pairwise _ hu hv

/-- They can be multiplied entry by entry. -/
theorem gives_entrywiseMul (hu : u.length = n) (hv : v.length = n) :
    Gives (entrywiseMul u v) fun result => result.length = n :=
  gives_pairwise _ hu hv

/-- They can be divided entry by entry, whatever the divisors are. -/
theorem gives_entrywiseDiv (hu : u.length = n) (hv : v.length = n) :
    Gives (entrywiseDiv u v) fun result => result.length = n :=
  gives_pairwise _ hu hv

/-- Vectors of one length have a dot product. -/
theorem dot_eq_ok (h : u.length = v.length) : dot u v = .ok (laneDot u v) :=
  if_pos h

/-- The same for a length that both are known to have. -/
theorem gives_dot (hu : u.length = n) (hv : v.length = n) : Gives (dot u v) fun _ => True :=
  .of_eq (dot_eq_ok (hu.trans hv.symm)) trivial

end Linear

/-! ### Selections -/

namespace Selection

open Checked (Gives)

variable [Scalar α]

/-- Entries at positions in range are there to be selected. -/
theorem mapM_entry_eq_ok {full : List α} {indices : List Nat}
    (h : ∀ i ∈ indices, i < full.length) :
    (indices.mapM fun i => match full[i]? with
      | some entry => (.ok entry : Checked α α)
      | none => .error .misaligned) = .ok (indices.map (full.getD · 0)) := by
  induction indices with
  | nil => rfl
  | cons i rest ih =>
      obtain ⟨hi, hrest⟩ := List.forall_mem_cons.1 h
      -- The first position is in range, and the rest are by induction.
      rw [List.mapM_cons, ih hrest, List.getElem?_eq_getElem hi]
      simp [List.getD, hi]

/-- From a vector of the full space the selected entries can be read. -/
theorem select_eq_ok (selection : Selection) {full : List α} (h : full.length = selection.dim) :
    selection.select full = .ok (selection.indices.map (full.getD · 0)) := by
  refine mapM_entry_eq_ok fun i hi => ?_
  rw [h]
  exact selection.bounded i hi

/-- There are as many of them as selected coordinates. -/
theorem gives_select (selection : Selection) {full : List α} (h : full.length = selection.dim) :
    Gives (selection.select full) fun result => result.length = selection.size :=
  .of_eq (selection.select_eq_ok h) (List.length_map _)

/-- Adding at positions in range keeps the size. -/
theorem gives_addAt (alpha : α) {indices : List Nat} {v target : List α}
    (hv : indices.length ≤ v.length) (htarget : ∀ i ∈ indices, i < target.length) :
    Gives (addAt alpha indices v target) fun result => result.length = target.length := by
  induction indices generalizing v target with
  | nil => exact .of_eq rfl rfl
  | cons i indices ih =>
      obtain ⟨hi, hrest⟩ := List.forall_mem_cons.1 htarget
      cases v with
      | nil => exact absurd hv (Nat.not_succ_le_zero _)
      | cons entry v =>
          have hset : ∀ updated : α, (target.set i updated).length = target.length :=
            fun _ => List.length_set
          -- The entry is there, and replacing it does not change the size.
          simp only [addAt, List.getElem?_eq_getElem hi]
          rw [← hset (target[i] + alpha * entry)]
          refine ih (Nat.le_of_succ_le_succ hv) fun j hj => ?_
          rw [hset]
          exact hrest j hj

/-- Entries for the selected coordinates can be added to a vector of the
full space. -/
theorem gives_scatterAdd (selection : Selection) (alpha : α) {v target : List α}
    (hv : v.length = selection.size) (htarget : target.length = selection.dim) :
    Gives (selection.scatterAdd alpha v target) fun result => result.length = selection.dim := by
  rw [← htarget]
  refine gives_addAt alpha (Nat.le_of_eq hv.symm) fun i hi => ?_
  rw [htarget]
  exact selection.bounded i hi

end Selection

/-! ### Slacks and step lengths -/

open Checked (Gives)

variable [Scalar α]

/-- What the correction makes of a slack, given its bound and its
multiplier. -/
def Slack.corrected (mu move slack : α) (pair : α × α) : α :=
  if least mu ≤ slack then slack else lift mu move slack pair.1 pair.2

/-- With one bound and one multiplier for each slack the correction goes
through, entry by entry, and it counts the collapsed entries. -/
theorem Slack.safeguard_eq_zipWith (mu move : α) {slacks bounds multipliers : List α}
    (hbounds : slacks.length = bounds.length) (hmultipliers : slacks.length = multipliers.length) :
    safeguard mu move slacks bounds multipliers
      = .ok (List.zipWith (corrected mu move) slacks (List.zip bounds multipliers),
          slacks.countP fun slack => ¬ least mu ≤ slack) := by
  induction slacks generalizing bounds multipliers with
  | nil => rfl
  | cons slack slacks ih =>
      cases bounds with
      | nil => cases hbounds
      | cons bound bounds =>
          cases multipliers with
          | nil => cases hmultipliers
          | cons multiplier multipliers =>
              have hrest := ih (Nat.succ.inj hbounds) (Nat.succ.inj hmultipliers)
              -- Let through or lifted, the entry is the corrected one, and only then it counts.
              by_cases hlarge : least mu ≤ slack
              · simp [safeguard, corrected, hlarge, hrest]
              · simp [safeguard, corrected, hlarge, hrest, Nat.add_comm]

/-- The correction keeps the number of slacks, and it counts the collapsed
ones. -/
theorem Slack.gives_safeguard (mu move : α) {slacks bounds multipliers : List α}
    (hbounds : slacks.length = bounds.length) (hmultipliers : slacks.length = multipliers.length) :
    Gives (safeguard mu move slacks bounds multipliers) fun result =>
      result.1.length = slacks.length
        ∧ result.2 = slacks.countP fun slack => ¬ least mu ≤ slack := by
  refine .of_eq (safeguard_eq_zipWith mu move hbounds hmultipliers) ⟨?_, rfl⟩
  simp only [List.length_zipWith, List.length_zip]
  omega

/-- A step of the right length has a limit. -/
theorem StepLimit.gives_fractionToBoundary (tau : α) {values delta : List α} {n : Nat}
    (hvalues : values.length = n) (hdelta : delta.length = n) :
    Gives (fractionToBoundary tau values delta) fun _ => True := by
  unfold fractionToBoundary
  rw [ensureSize_eq_ok.2 (hvalues.trans hdelta.symm)]
  exact .of_eq rfl trivial

/-! ### Matrices -/

namespace Matrix

/-- A product with a vector of the right size is there. -/
theorem gives_mulVec {A : Matrix α} {v : List α} (h : v.length = A.columns) :
    Gives (A.mulVec v) fun result => result.length = A.rowCount :=
  .of_eq (if_pos h) (List.length_map _)

/-- So is the product with the transposed matrix. -/
theorem gives_transposeMulVec {A : Matrix α} {v : List α} (h : v.length = A.rowCount) :
    Gives (A.transposeMulVec v) fun result => result.length = A.columns :=
  .of_eq (if_pos h) (by simp)

end Matrix

namespace Operator

/-- A product with a vector of the right size is there. -/
theorem gives_mulVec {J : Operator α} {v : List α} (h : v.length = J.columns) :
    Gives (J.mulVec v) fun result => result.length = J.rowCount := by
  cases J with
  | dense A => exact Matrix.gives_mulVec h
  | matrixFree J => exact .of_eq (if_pos h) (J.length_times v h)

/-- So is one from the other side. -/
theorem gives_transposeMulVec {J : Operator α} {v : List α} (h : v.length = J.rowCount) :
    Gives (J.transposeMulVec v) fun result => result.length = J.columns := by
  cases J with
  | dense A => exact Matrix.gives_transposeMulVec h
  | matrixFree J => exact .of_eq (if_pos h) (J.length_transposeTimes v h)

end Operator

end InteriorPoint
