import InteriorPoint.Proofs.Quantity.Gradients
import InteriorPoint.Proofs.Bounds.Position

/-!
# `InteriorPoint.Proofs.Quantity.Coordinates`: what the bounds on a coordinate contribute

The gradient of the Lagrangian and the primal-dual scaling of a block are put
together from vectors of the full space and vectors over the bounds of either
side. A coordinate has at most one bound on each side, so it receives one term
of that side or none (`Selection.contribution`). For `P v` this is the entry of
`v` at the place where the coordinate stands (`embed_eq_contribution`), and the
lists of both sides are read each at its own place.

`Sound.lagrangianGradient_contribution` and `Sound.gives_primalDualScaling` are
the two assembled vectors, coordinate by coordinate.
-/

set_option autoImplicit false

namespace InteriorPoint

namespace Selection

section
variable {K : Type} [Field K]

/-- What coordinate `i` receives from the terms of a selection: the `k`-th term
if it is the `k`-th selected coordinate, and nothing if it is not selected. -/
def contribution (selection : Selection) (term : Nat → K) (i : Nat) : K :=
  (selection.position? i).elim 0 term

variable {selection : Selection} {i k : Nat}

/-- The `k`-th selected coordinate receives the `k`-th term. -/
theorem contribution_eq (h : selection.indices[k]? = some i) (term : Nat → K) :
    selection.contribution term i = term k := by
  rw [contribution, position?_eq_some_iff.2 h]
  rfl

/-- A coordinate that is not selected receives nothing. -/
theorem contribution_eq_zero (h : i ∉ selection.indices) (term : Nat → K) :
    selection.contribution term i = 0 := by
  rw [contribution, position?_eq_none_iff.2 h]
  rfl

/-- Of distinct coordinates at most one is `i`, so the sum has at most one term
that is not zero. -/
theorem sum_at_coordinate {indices : List Nat} (hnodup : indices.Nodup) {v : List K}
    (hv : v.length = indices.length) (i : Nat) :
    (List.zipWith (fun j entry => if j = i then entry else 0) indices v).sum
      = (indices.idxOf? i).elim 0 (v.getD · 0) := by
  induction indices generalizing v with
  | nil => rfl
  | cons j indices ih =>
      cases v with
      | nil => cases hv
      | cons entry v =>
          obtain ⟨hfresh, hnodup⟩ := List.nodup_cons.1 hnodup
          have hrest := ih hnodup (Nat.succ.inj hv)
          rw [List.zipWith_cons_cons, List.sum_cons, hrest, List.idxOf?_cons]
          by_cases hij : j = i
          · -- The coordinate occurs here, and so not in the rest.
            subst hij
            rw [List.idxOf?_eq_none_iff.2 hfresh]
            simp
          · rw [if_neg hij, zero_add, beq_eq_false_iff_ne.2 hij]
            cases indices.idxOf? i <;> rfl

end

variable {K : Type} [Field K] [LinearOrder K] [ExactFunctions K] {selection : Selection}

/-- Terms that are not negative contribute nothing negative. -/
theorem contribution_nonneg {term : Nat → K} (h : ∀ k, k < selection.size → 0 ≤ term k) (i : Nat) :
    0 ≤ selection.contribution term i := by
  unfold contribution
  cases hposition : selection.position? i with
  | none => exact le_refl _
  | some k => exact h k (lt_size_of_position? hposition)

/-- To embed a vector is to give every coordinate its entry. -/
theorem embed_eq_contribution {v : List K} (hv : v.length = selection.size) (i : Nat) :
    selection.embed v i = selection.contribution (v.getD · 0) i :=
  sum_at_coordinate selection.nodup_indices hv i

end Selection

variable {K : Type} [Field K] [LinearOrder K] [ExactFunctions K]

/-- The quotient of two vectors of one size, entry by entry. -/
theorem Linear.gives_entrywiseDiv_entry {u v : List K} {n : Nat} (hu : u.length = n)
    (hv : v.length = n) :
    Checked.Gives (entrywiseDiv u v) fun ratio =>
      ratio.length = n ∧ ∀ k, ratio.getD k 0 = u.getD k 0 / v.getD k 0 := by
  refine .of_eq (pairwise_eq_ok.2 ⟨hu.trans hv.symm, rfl⟩) ⟨?_, ?_⟩
  · rw [List.length_zipWith, hu, hv, Nat.min_self]
  · intro k
    simp only [List.getD_eq_getElem?_getD, List.getElem?_zipWith]
    by_cases hk : k < n
    · have hu' : k < u.length := by omega
      have hv' : k < v.length := by omega
      simp [hu', hv']
    · -- Beyond the end both sides are zero.
      have hu' : ¬ k < u.length := by omega
      have hv' : ¬ k < v.length := by omega
      simp [hu', hv']

namespace Setting

/-- The selection of the coordinates of a block that are bounded on one side. -/
def selection (setting : Setting K) (block : Block) (side : Side) : Selection :=
  (setting.problem.limits ⟨block, side⟩).selection

/-- The current multipliers of the bounds on one side of a block. -/
def multiplier (setting : Setting K) (block : Block) (side : Side) : List K :=
  (setting.state.current.multipliers.get ⟨block, side⟩).entries

variable {setting : Setting K} {block : Block} (hsound : setting.Sound)
include hsound

/-- There is one multiplier for each bound. -/
theorem Sound.length_multiplier_eq_size (side : Side) :
    (setting.multiplier block side).length = (setting.selection block side).size := by
  rw [multiplier, hsound.length_multiplier setting.iterateAt_current]
  exact (hsound.selection_size _).symm

/-- Where the gradient of the Lagrangian exists, a coordinate has the entry of
the objective, the constraint terms, and the multiplier of each of its bounds. -/
theorem Sound.lagrangianGradient_contribution {gradient : List K}
    (h : setting.value (.lagrangianGradient block) = .ok gradient) :
    gradient.length = setting.blockSize block
      ∧ ∀ i, i < setting.blockSize block → gradient.getD i 0
        = (setting.objectivePart block).getD i 0 + setting.constraintTerm block i
          - (setting.selection block .lower).contribution
              ((setting.multiplier block .lower).getD · 0) i
          + (setting.selection block .upper).contribution
              ((setting.multiplier block .upper).getD · 0) i := by
  obtain ⟨-, hlength, hentry⟩ := hsound.lagrangianGradient_entry h
  refine ⟨hlength, ?_⟩
  intro i hi
  rw [hentry i hi, ← Selection.embed_eq_contribution (hsound.length_multiplier_eq_size .lower),
    ← Selection.embed_eq_contribution (hsound.length_multiplier_eq_size .upper)]
  -- The two sides enter with opposite signs.
  show _ - ((setting.selection block .lower).embed (setting.multiplier block .lower) i
    - (setting.selection block .upper).embed (setting.multiplier block .upper) i) = _
  ring

/-- The primal-dual scaling exists. A coordinate has the quotient of multiplier
and slack of each of its bounds. -/
theorem Sound.gives_primalDualScaling {slack : Side → List K}
    (hslack : ∀ side, setting.value (.slack .current ⟨block, side⟩) = .ok (slack side))
    (hlength : ∀ side, (slack side).length = setting.dims.bounds.get ⟨block, side⟩) :
    Checked.Gives (setting.value (.primalDualScaling block)) fun (scaling : List K) =>
      scaling.length = setting.blockSize block
        ∧ ∀ i, i < setting.blockSize block → scaling.getD i 0
          = (setting.selection block .lower).contribution (fun k =>
              (setting.multiplier block .lower).getD k 0 / (slack .lower).getD k 0) i
            + (setting.selection block .upper).contribution (fun k =>
              (setting.multiplier block .upper).getD k 0 / (slack .upper).getD k 0) i := by
  have hratio := fun side => Linear.gives_entrywiseDiv_entry
    (hsound.length_multiplier setting.iterateAt_current ⟨block, side⟩) (hlength side)
  have hzeros : (Linear.zeros (setting.blockSize block) : List K).length
      = setting.blockSize block :=
    List.length_replicate
  rw [value_eq]
  simp only [key, Quantity.formula, pure_bind, eval_bind, eval_value, eval_lift, hslack,
    Checked.ok_bind]
  -- The four steps of the formula: divide and scatter, for either side.
  apply (hratio .lower).bind
  rintro lowerRatio ⟨hlower, hlowerEntry⟩
  apply (hsound.gives_scatterAdd_entry .lower 1 hlower hzeros).bind
  rintro scaling ⟨hscaling, hscalingEntry⟩
  apply (hratio .upper).bind
  rintro upperRatio ⟨hupper, hupperEntry⟩
  apply (hsound.gives_scatterAdd_entry .upper 1 hupper hscaling).mono
  rintro result ⟨hresult, hresultEntry⟩
  refine ⟨hresult, ?_⟩
  intro i hi
  have hlowerSize := hlower.trans (hsound.selection_size ⟨block, .lower⟩).symm
  have hupperSize := hupper.trans (hsound.selection_size ⟨block, .upper⟩).symm
  -- The scatter starts from zero and adds each side once.
  rw [hresultEntry i hi, hscalingEntry i hi, Linear.getD_zeros,
    Selection.embed_eq_contribution hlowerSize, Selection.embed_eq_contribution hupperSize,
    zero_add, one_mul, one_mul, funext hlowerEntry, funext hupperEntry]
  rfl

end Setting

end InteriorPoint
