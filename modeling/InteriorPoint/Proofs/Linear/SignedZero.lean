import InteriorPoint.Bounds.Selection
import InteriorPoint.Norm
import InteriorPoint.Proofs.Checked
import InteriorPoint.Proofs.Scalar.SignedZero

/-!
# `InteriorPoint.Proofs.Linear.SignedZero`: vectors up to the signs of zeros

Two vectors are compared entry by entry (`List.Forall₂ Scalar.Alike`). An
operation on alike vectors gives alike vectors, or is refused for both:
shifting by a number, adding at coordinates, the dot product.

A norm takes absolute values or squares of the entries first. These have
no sign, so norms of alike vectors are equal (`Norm.ofVectors_eq`).
-/

set_option autoImplicit false

namespace InteriorPoint

open Scalar (Alike)

variable {α : Type} [Scalar α]

namespace Linear

/-- A vector is like itself. -/
theorem alike_refl (v : List α) : List.Forall₂ Alike v v :=
  List.forall₂_same.2 fun a _ => Scalar.Alike.refl a

/-- Likeness does not depend on the order of the two vectors. -/
theorem alike_symm {u v : List α} (h : List.Forall₂ Alike u v) : List.Forall₂ Alike v u :=
  .flip (h.imp fun _ _ => Scalar.Alike.symm)

/-- Likeness carries over from one pair of vectors to the next. -/
theorem alike_trans {u v w : List α} (h : List.Forall₂ Alike u v) (h' : List.Forall₂ Alike v w) :
    List.Forall₂ Alike u w := by
  induction h generalizing w with
  | nil => exact h'
  | cons hentry _ ih =>
      cases h' with
      | cons hentry' hrest => exact .cons (hentry.trans hentry') (ih hrest)

/-- Replacing an entry on both sides by alike ones. -/
theorem set_alike {v v' : List α} (h : List.Forall₂ Alike v v') {a a' : α} (ha : Alike a a')
    (i : Nat) : List.Forall₂ Alike (v.set i a) (v'.set i a') := by
  induction h generalizing i with
  | nil => exact .nil
  | cons hentry hrest ih =>
      cases i with
      | zero => exact .cons ha hrest
      | succ i => exact .cons hentry (ih i)

section
variable [LawfulZero α]

/-- Adding alike numbers to alike entries. -/
theorem shift_alike {a a' : α} (ha : Alike a a') {v v' : List α} (hv : List.Forall₂ Alike v v') :
    List.Forall₂ Alike (shift a v) (shift a' v') := by
  induction hv with
  | nil => exact .nil
  | cons hentry _ ih => exact .cons (LawfulZero.add_alike hentry ha) ih

/-- Sums of alike entries, from alike starting values. -/
theorem foldl_add_alike {v v' : List α} (hv : List.Forall₂ Alike v v') {a a' : α}
    (ha : Alike a a') : Alike (v.foldl (· + ·) a) (v'.foldl (· + ·) a') := by
  induction hv generalizing a a' with
  | nil => exact ha
  | cons hentry _ ih => exact ih (LawfulZero.add_alike ha hentry)

/-- Products of alike entries. -/
theorem zipWith_mul_alike {u u' v v' : List α} (hu : List.Forall₂ Alike u u')
    (hv : List.Forall₂ Alike v v') :
    List.Forall₂ Alike (List.zipWith (· * ·) u v) (List.zipWith (· * ·) u' v') := by
  induction hu generalizing v v' with
  | nil => exact .nil
  | cons hentry _ ih =>
      cases hv with
      | nil => exact .nil
      | cons hentry' hrest => exact .cons (LawfulZero.mul_alike hentry hentry') (ih hrest)

/-- Sums in eight lanes. The two lists of products are consumed together,
eight entries at a time. -/
theorem laneSum_alike {a₀ a₁ a₂ a₃ a₄ a₅ a₆ a₇ b₀ b₁ b₂ b₃ b₄ b₅ b₆ b₇ : α} {p q : List α}
    (h₀ : Alike a₀ b₀) (h₁ : Alike a₁ b₁) (h₂ : Alike a₂ b₂) (h₃ : Alike a₃ b₃)
    (h₄ : Alike a₄ b₄) (h₅ : Alike a₅ b₅) (h₆ : Alike a₆ b₆) (h₇ : Alike a₇ b₇)
    (h : List.Forall₂ Alike p q) :
    Alike (laneSum a₀ a₁ a₂ a₃ a₄ a₅ a₆ a₇ p) (laneSum b₀ b₁ b₂ b₃ b₄ b₅ b₆ b₇ q) := by
  fun_induction laneSum a₀ a₁ a₂ a₃ a₄ a₅ a₆ a₇ p generalizing b₀ b₁ b₂ b₃ b₄ b₅ b₆ b₇ q with
  | case1 a₀ a₁ a₂ a₃ a₄ a₅ a₆ a₇ p₀ p₁ p₂ p₃ p₄ p₅ p₆ p₇ rest ih =>
      rcases h with
    _ | ⟨k₀, _ | ⟨k₁, _ | ⟨k₂, _ | ⟨k₃, _ | ⟨k₄, _ | ⟨k₅, _ | ⟨k₆, _ | ⟨k₇, h⟩⟩⟩⟩⟩⟩⟩⟩
      have hrest := ih (LawfulZero.add_alike h₀ k₀) (LawfulZero.add_alike h₁ k₁)
        (LawfulZero.add_alike h₂ k₂) (LawfulZero.add_alike h₃ k₃) (LawfulZero.add_alike h₄ k₄)
        (LawfulZero.add_alike h₅ k₅) (LawfulZero.add_alike h₆ k₆) (LawfulZero.add_alike h₇ k₇) h
      exact hrest
  | case2 a₀ a₁ a₂ a₃ a₄ a₅ a₆ a₇ rest hshort =>
      -- Fewer than eight products are left on either side.
      rw [laneSum]
      · refine foldl_add_alike h ?_
        have hstart := LawfulZero.add_alike (Scalar.Alike.refl 0) (LawfulZero.add_alike h₀ h₄)
        exact LawfulZero.add_alike (LawfulZero.add_alike (LawfulZero.add_alike hstart
          (LawfulZero.add_alike h₁ h₅)) (LawfulZero.add_alike h₂ h₆)) (LawfulZero.add_alike h₃ h₇)
      · rintro q₀ q₁ q₂ q₃ q₄ q₅ q₆ q₇ rest' rfl
        rcases h with _ | ⟨_, _ | ⟨_, _ | ⟨_, _ | ⟨_, _ | ⟨_, _ | ⟨_, _ | ⟨_, _ | ⟨_, _⟩⟩⟩⟩⟩⟩⟩⟩
        exact hshort _ _ _ _ _ _ _ _ _ rfl

/-- Dot products of alike vectors. -/
theorem laneDot_alike {u u' v v' : List α} (hu : List.Forall₂ Alike u u')
    (hv : List.Forall₂ Alike v v') : Alike (laneDot u v) (laneDot u' v') := by
  have hzero : Alike (0 : α) 0 := .refl 0
  exact laneSum_alike hzero hzero hzero hzero hzero hzero hzero hzero (zipWith_mul_alike hu hv)

/-- Dot products of alike vectors, with the check of their lengths. -/
theorem dot_alike {u u' v v' : List α} (hu : List.Forall₂ Alike u u')
    (hv : List.Forall₂ Alike v v') : Checked.Rel Alike (dot u v) (dot u' v') := by
  unfold dot
  rw [hu.length_eq, hv.length_eq]
  split
  · exact .ok (laneDot_alike hu hv)
  · exact .error _

end

/-! ### Norms -/

/-- The absolute values of alike entries are equal. -/
theorem map_abs_eq [LawfulComparison α] {v v' : List α} (h : List.Forall₂ Alike v v') :
    v.map Scalar.abs = v'.map Scalar.abs := by
  induction h with
  | nil => rfl
  | cons hentry _ ih => rw [List.map_cons, List.map_cons, hentry.abs_eq, ih]

/-- The squares of alike entries are equal, since the square of a zero has
no sign. -/
theorem zipWith_mul_self_eq [LawfulZero α] {v v' : List α} (h : List.Forall₂ Alike v v') :
    List.zipWith (· * ·) v v = List.zipWith (· * ·) v' v' := by
  induction h with
  | nil => rfl
  | cons hentry _ ih =>
      rw [List.zipWith_cons_cons, List.zipWith_cons_cons, ih]
      rcases hentry with rfl | ⟨hzero, hzero'⟩
      · rfl
      · rw [LawfulZero.mul_self hzero, LawfulZero.mul_self hzero']

end Linear

/-- A norm does not see the signs of zeros. -/
theorem Norm.ofVectors_eq [LawfulComparison α] [LawfulZero α] {vectors vectors' : List (List α)}
    (h : List.Forall₂ (List.Forall₂ Alike) vectors vectors') (norm : Norm) :
    norm.ofVectors vectors = norm.ofVectors vectors' := by
  cases norm with
  | one =>
      have hsums : vectors.map Linear.sumAbs = vectors'.map Linear.sumAbs := by
        induction h with
        | nil => rfl
        | cons hvector _ ih =>
            simp only [List.map_cons, Linear.sumAbs, Linear.map_abs_eq hvector, ih]
      simp only [ofVectors, hsums]
  | two =>
      have hsquares : vectors.map Linear.squaredLength = vectors'.map Linear.squaredLength := by
        induction h with
        | nil => rfl
        | cons hvector _ ih =>
            simp only [List.map_cons, Linear.squaredLength, Linear.laneDot,
              Linear.zipWith_mul_self_eq hvector, ih]
      simp only [ofVectors, hsquares]
  | max =>
      -- The maximum runs over the absolute values of all entries.
      have hfold : ∀ vs : List (List α), Norm.max.ofVectors vs
          = (vs.flatten.map Scalar.abs).foldl Scalar.max 0 := fun vs => by
        rw [ofVectors, List.foldl_map]
      have habs : vectors.flatten.map Scalar.abs = vectors'.flatten.map Scalar.abs := by
        induction h with
        | nil => rfl
        | cons hvector _ ih =>
            rw [List.flatten_cons, List.flatten_cons, List.map_append, List.map_append,
              Linear.map_abs_eq hvector, ih]
      rw [hfold, hfold, habs]

namespace Selection

variable [LawfulZero α]

/-- Adding at coordinates of alike targets, with alike coefficients. -/
theorem addAt_alike {alpha alpha' : α} (halpha : Alike alpha alpha') (indices : List Nat)
    (v : List α) {target target' : List α} (htarget : List.Forall₂ Alike target target') :
    Checked.Rel (List.Forall₂ Alike) (addAt alpha indices v target)
      (addAt alpha' indices v target') := by
  induction indices generalizing v target target' with
  | nil => exact .ok htarget
  | cons i indices ih =>
      cases v with
      | nil => exact .error _
      | cons entry v =>
          -- Both targets have an entry at the coordinate, or neither has.
          by_cases hi : i < target.length
          · have hi' : i < target'.length := htarget.length_eq ▸ hi
            simp only [addAt, List.getElem?_eq_getElem hi, List.getElem?_eq_getElem hi']
            have hentry : Alike target[i] target'[i] := htarget.get hi hi'
            have hsum : Alike (target[i] + alpha * entry) (target'[i] + alpha' * entry) :=
              LawfulZero.add_alike hentry (LawfulZero.mul_alike halpha (.refl entry))
            exact ih v (Linear.set_alike htarget hsum i)
          · have hi' : ¬ i < target'.length := htarget.length_eq ▸ hi
            simp only [addAt, List.getElem?_eq_none (Nat.not_lt.1 hi),
              List.getElem?_eq_none (Nat.not_lt.1 hi')]
            exact .error _

/-- Adding an embedded vector to alike targets, with alike coefficients. -/
theorem scatterAdd_alike (selection : Selection) {alpha alpha' : α} (halpha : Alike alpha alpha')
    (v : List α) {target target' : List α} (htarget : List.Forall₂ Alike target target') :
    Checked.Rel (List.Forall₂ Alike) (selection.scatterAdd alpha v target)
      (selection.scatterAdd alpha' v target') :=
  addAt_alike halpha selection.indices v htarget

end Selection

end InteriorPoint
