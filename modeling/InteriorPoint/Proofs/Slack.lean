import Mathlib.Data.List.Forall2
import Mathlib.Data.List.GetD
import InteriorPoint.Proofs.Checked
import InteriorPoint.Proofs.Scalar.SignedZero
import InteriorPoint.Slack

/-!
# `InteriorPoint.Proofs.Slack`: what the correction of slacks guarantees

Every corrected slack is at least `Slack.least`, which is positive
(`least_le_of_safeguard`, `least_pos`). Slacks that are large enough
already are let through as they are (`safeguard_of_least_le`). Both are
said entry by entry in `corrects_of_safeguard`.

The correction does not see the sign of a zero barrier parameter
(`safeguard_eq_of_alike`): wherever `mu` enters, the outcome is compared
or ends in a maximum with a positive number.
-/

set_option autoImplicit false

namespace InteriorPoint.Slack

variable {α : Type} [Scalar α]

/-- Without a collapsed entry nothing is changed or counted. -/
theorem safeguard_of_least_le {mu : α} (move : α) {slacks : List α}
    (h : ∀ slack ∈ slacks, least mu ≤ slack) (bounds multipliers : List α) :
    safeguard mu move slacks bounds multipliers = .ok (slacks, 0) := by
  induction slacks generalizing bounds multipliers with
  | nil => rfl
  | cons slack slacks ih =>
      obtain ⟨hslack, hrest⟩ := List.forall_mem_cons.1 h
      simp only [safeguard, if_pos hslack, Checked.ok_bind, ih hrest]
      rfl

variable [LawfulComparison α]

/-- The least slack is positive, also where `epsilon * mu` has vanished. -/
theorem least_pos (mu : α) : 0 < least mu := by
  unfold least
  split
  · assumption
  · exact LawfulComparison.tiny_pos

/-- Lifting ends in a maximum with `least mu`. What it is the maximum of
may be undefined. -/
theorem least_le_lift (mu move slack bound multiplier : α) :
    least mu ≤ lift mu move slack bound multiplier :=
  Scalar.le_max_right (Scalar.isNumber_of_lt (least_pos mu))

/-- How a distance becomes a slack: one that is large enough stays as it
is, and what comes out is always large enough. -/
structure Corrects (mu distance slack : α) : Prop where
  least_le : least mu ≤ slack
  eq_of_least_le : least mu ≤ distance → slack = distance

/-- What the correction does to each entry of a vector. By induction on the
entries, as the correction itself runs. -/
theorem corrects_of_safeguard {mu move : α} {slacks bounds multipliers entries : List α}
    {count : Nat} (h : safeguard mu move slacks bounds multipliers = .ok (entries, count)) :
    List.Forall₂ (Corrects mu) slacks entries := by
  induction slacks generalizing bounds multipliers entries count with
  | nil =>
      cases h
      exact .nil
  | cons slack slacks ih =>
      simp only [safeguard] at h
      split at h
      · -- The entry is let through, because it is large enough.
        rename_i hlarge
        simp only [Checked.ok_bind, Checked.bind_eq_ok, Checked.pure_eq_ok] at h
        obtain ⟨⟨rest, total⟩, hrest, hentries⟩ := h
        cases hentries
        exact .cons ⟨hlarge, fun _ => rfl⟩ (ih hrest)
      · -- The entry is lifted, which reads its bound and its multiplier.
        rename_i hsmall
        split at h
        · simp only [Checked.ok_bind, Checked.bind_eq_ok, Checked.pure_eq_ok] at h
          obtain ⟨⟨rest, total⟩, hrest, hentries⟩ := h
          cases hentries
          exact .cons ⟨least_le_lift _ _ _ _ _, fun hlarge => absurd hlarge hsmall⟩ (ih hrest)
        · cases h

omit [LawfulComparison α] in
/-- The same at one position. -/
theorem Corrects.getD {mu : α} {distances slacks : List α}
    (h : List.Forall₂ (Corrects mu) distances slacks) {n : Nat} (hn : n < distances.length) :
    Corrects mu (distances.getD n 0) (slacks.getD n 0) := by
  have hn' : n < slacks.length := h.length_eq ▸ hn
  rw [List.getD_eq_getElem _ _ hn, List.getD_eq_getElem _ _ hn']
  exact h.get hn hn'

omit [LawfulComparison α] in
/-- Corrected entries are large enough. -/
theorem least_le_of_corrects {mu : α} {distances slacks : List α}
    (h : List.Forall₂ (Corrects mu) distances slacks) : ∀ slack ∈ slacks, least mu ≤ slack := by
  induction h with
  | nil => exact fun _ hmem => absurd hmem List.not_mem_nil
  | cons hfirst _ ih => exact List.forall_mem_cons.2 ⟨hfirst.least_le, ih⟩

/-- Every entry that the correction returns is large enough. -/
theorem least_le_of_safeguard {mu move : α} {slacks bounds multipliers entries : List α}
    {count : Nat} (h : safeguard mu move slacks bounds multipliers = .ok (entries, count)) :
    ∀ entry ∈ entries, least mu ≤ entry :=
  least_le_of_corrects (corrects_of_safeguard h)

/-! ### The sign of a zero barrier parameter -/

section
variable [LawfulZero α] {mu mu' : α} (h : Scalar.Alike mu mu')
include h

/-- The least slack is read off a product that is only tested for being
positive. -/
theorem least_eq_of_alike : least mu = least mu' := by
  have hproduct : Scalar.Alike (Scalar.epsilon * Scalar.min mu 1)
      (Scalar.epsilon * Scalar.min mu' 1) :=
    LawfulZero.mul_alike (.refl _) (h.min 1)
  unfold least
  by_cases hpos : 0 < Scalar.epsilon * Scalar.min mu 1
  · rw [if_pos hpos, if_pos (hproduct.pos_iff.1 hpos), hproduct.eq_of_pos hpos]
  · rw [if_neg hpos, if_neg (mt hproduct.pos_iff.2 hpos)]

/-- A quotient `mu / multiplier` that is zero gives way to the least
slack. -/
theorem central_eq_of_alike (multiplier : α) : central mu multiplier = central mu' multiplier := by
  unfold central
  rw [least_eq_of_alike h, (LawfulZero.div_alike h multiplier).max_eq (least_pos mu')]

/-- A slack is lifted to the same place. -/
theorem lift_eq_of_alike (move slack bound multiplier : α) :
    lift mu move slack bound multiplier = lift mu' move slack bound multiplier := by
  unfold lift
  rw [central_eq_of_alike h, least_eq_of_alike h]

/-- Corrections for alike barrier parameters are the same, entry by entry,
and so is their number. -/
theorem safeguard_eq_of_alike (move : α) (slacks bounds multipliers : List α) :
    safeguard mu move slacks bounds multipliers
      = safeguard mu' move slacks bounds multipliers := by
  induction slacks generalizing bounds multipliers with
  | nil => rfl
  | cons slack slacks ih =>
      simp only [safeguard, least_eq_of_alike h, lift_eq_of_alike h, ih]

end

end InteriorPoint.Slack
