import InteriorPoint.Proofs.Scalar.Binary64
import InteriorPoint.Proofs.Scalar.SignedZero

/-!
# `InteriorPoint.Proofs.Scalar.Unpacked`: signed zeros of binary64

An operation of binary64 unpacks its operands, computes the unpacked form
of the result and packs it (`ofUnpacked`). A zero is unpacked as a form of
its own, with a sign and nothing else, so how an operation treats zeros is
read off its table of cases: `add`, `mul` and `neg` turn zeros of one sign
into zeros of some sign where they turn zeros of the other sign into
zeros, and give the same result otherwise. A quotient does so in its
numerator.

Two forms are `FormAlike` if they are one form or both are zeros. The laws
of `LawfulZero` are first shown for forms, one operand after the other,
and carried over by `alike_ofUnpacked` and `formAlike`.
-/

set_option autoImplicit false

namespace InteriorPoint.Binary64

open Float.Model (UnpackedFloat)
open Scalar

/-- The number with a given unpacked form. -/
def ofUnpacked (form : UnpackedFloat) : Binary64 :=
  ofFloat ⟨Float.Model.pack form⟩

/-- A sum is computed on the unpacked forms. -/
theorem add_eq (a b : Binary64) : a + b = ofUnpacked (.add .binary64 a.unpacked b.unpacked) :=
  rfl

/-- A product is computed on the unpacked forms. -/
theorem mul_eq (a b : Binary64) : a * b = ofUnpacked (.mul .binary64 a.unpacked b.unpacked) :=
  rfl

/-- A quotient is computed on the unpacked forms. -/
theorem div_eq (a b : Binary64) : a / b = ofUnpacked (.div .binary64 a.unpacked b.unpacked) :=
  rfl

/-- A negation is computed on the unpacked form. -/
theorem neg_eq (a : Binary64) : -a = ofUnpacked (.neg a.unpacked) :=
  rfl

/-! ### Forms of zero -/

/-- The form of a zero, of either sign. -/
def IsZeroForm (form : UnpackedFloat) : Prop :=
  ∃ sign, form = .zero sign

/-- Packing a zero keeps its sign. -/
theorem unpacked_ofUnpacked_zero (sign : UnpackedFloat.Sign) :
    (ofUnpacked (.zero sign)).unpacked = .zero sign := by
  cases sign <;> rfl

/-- The zeros are the numbers whose form is one of the two zeros. -/
theorem isZero_iff (a : Binary64) : IsZero a ↔ IsZeroForm a.unpacked := by
  have hzero : (0 : Binary64).unpacked = .zero .positive := rfl
  unfold IsZero Same
  rw [le_iff, le_iff, le_iff_position, le_iff_position, hzero]
  unfold IsZeroForm
  -- Every other form stands below or above the position of zero.
  rcases a.unpacked with (_ | _) | _ | _ | ⟨(_ | _), mantissa, exponent, _⟩ <;>
    simp [UnpackedFloat.isNaN, position, Prod.Lex.toLex_le_toLex]

/-- The same form, or forms of zeros. -/
def FormAlike (u u' : UnpackedFloat) : Prop :=
  u = u' ∨ IsZeroForm u ∧ IsZeroForm u'

/-- Alike forms are packed to alike numbers. -/
theorem alike_ofUnpacked {u u' : UnpackedFloat} (h : FormAlike u u') :
    Alike (ofUnpacked u) (ofUnpacked u') := by
  rcases h with rfl | ⟨⟨sign, rfl⟩, sign', rfl⟩
  · exact Or.inl rfl
  · exact Or.inr ⟨(isZero_iff _).2 ⟨sign, unpacked_ofUnpacked_zero sign⟩,
      (isZero_iff _).2 ⟨sign', unpacked_ofUnpacked_zero sign'⟩⟩

/-- Alike numbers are unpacked to alike forms. -/
theorem formAlike {a a' : Binary64} (h : Alike a a') : FormAlike a.unpacked a'.unpacked := by
  rcases h with rfl | ⟨h, h'⟩
  · exact Or.inl rfl
  · exact Or.inr ⟨(isZero_iff a).1 h, (isZero_iff a').1 h'⟩

/-- What holds of every pair of zeros and of equal forms holds of alike
forms. -/
theorem FormAlike.map {f : UnpackedFloat → UnpackedFloat}
    (hzero : ∀ sign sign', FormAlike (f (.zero sign)) (f (.zero sign'))) {u u' : UnpackedFloat}
    (h : FormAlike u u') : FormAlike (f u) (f u') := by
  rcases h with rfl | ⟨⟨sign, rfl⟩, sign', rfl⟩
  · exact Or.inl rfl
  · exact hzero sign sign'

/-- Likeness of forms carries over from one pair to the next. -/
theorem FormAlike.trans {u v w : UnpackedFloat} (h : FormAlike u v) (h' : FormAlike v w) :
    FormAlike u w := by
  rcases h with rfl | ⟨hu, hv⟩
  · exact h'
  · rcases h' with rfl | ⟨-, hw⟩
    · exact Or.inr ⟨hu, hv⟩
    · exact Or.inr ⟨hu, hw⟩

/-- Two zeros are alike whatever their signs are. -/
theorem formAlike_zero (sign sign' : UnpackedFloat.Sign) :
    FormAlike (.zero sign) (.zero sign') :=
  Or.inr ⟨⟨sign, rfl⟩, sign', rfl⟩

/-! ### Operations -/

/-- The sign of a zero on the left shows in a sum of zeros only. -/
theorem formAlike_add_left (v : UnpackedFloat) (sign sign' : UnpackedFloat.Sign) :
    FormAlike (.add .binary64 (.zero sign) v) (.add .binary64 (.zero sign') v) := by
  cases v with
  | infinity _ => exact Or.inl rfl
  | notANumber => exact Or.inl rfl
  | zero other => cases sign <;> cases sign' <;> cases other <;> exact formAlike_zero _ _
  | finite _ _ _ _ => exact Or.inl rfl

/-- The sign of a zero on the right shows in a sum of zeros only. -/
theorem formAlike_add_right (u : UnpackedFloat) (sign sign' : UnpackedFloat.Sign) :
    FormAlike (.add .binary64 u (.zero sign)) (.add .binary64 u (.zero sign')) := by
  cases u with
  | infinity _ => exact Or.inl rfl
  | notANumber => exact Or.inl rfl
  | zero other => cases sign <;> cases sign' <;> cases other <;> exact formAlike_zero _ _
  | finite _ _ _ _ => exact Or.inl rfl

/-- A zero on the left makes a product zero or undefined, by the other
factor alone. -/
theorem formAlike_mul_left (v : UnpackedFloat) (sign sign' : UnpackedFloat.Sign) :
    FormAlike (.mul .binary64 (.zero sign) v) (.mul .binary64 (.zero sign') v) := by
  cases v with
  | infinity _ => exact Or.inl rfl
  | notANumber => exact Or.inl rfl
  | zero _ => exact formAlike_zero _ _
  | finite _ _ _ _ => exact formAlike_zero _ _

/-- A zero on the right makes a product zero or undefined, by the other
factor alone. -/
theorem formAlike_mul_right (u : UnpackedFloat) (sign sign' : UnpackedFloat.Sign) :
    FormAlike (.mul .binary64 u (.zero sign)) (.mul .binary64 u (.zero sign')) := by
  cases u with
  | infinity _ => exact Or.inl rfl
  | notANumber => exact Or.inl rfl
  | zero _ => exact formAlike_zero _ _
  | finite _ _ _ _ => exact formAlike_zero _ _

/-- A zero numerator makes a quotient zero or undefined, by the
denominator alone. -/
theorem formAlike_div (v : UnpackedFloat) (sign sign' : UnpackedFloat.Sign) :
    FormAlike (.div .binary64 (.zero sign) v) (.div .binary64 (.zero sign') v) := by
  cases v with
  | infinity _ => exact formAlike_zero _ _
  | notANumber => exact Or.inl rfl
  | zero _ => exact Or.inl rfl
  | finite _ _ _ _ => exact formAlike_zero _ _

/-- The square of a zero is the zero without a sign. -/
theorem mul_self_zero (sign : UnpackedFloat.Sign) :
    ofUnpacked (.mul .binary64 (.zero sign) (.zero sign)) = 0 := by
  cases sign <;> rfl

/-- Binary64 treats the sign of a zero lawfully: every operation reads the
unpacked forms of its operands. -/
instance : LawfulZero Binary64 where
  neg_alike {a a'} h := by
    rw [neg_eq, neg_eq]
    exact alike_ofUnpacked (FormAlike.map (fun _ _ => formAlike_zero _ _) (formAlike h))
  add_alike {a a' b b'} h h' := by
    rw [add_eq, add_eq]
    -- One operand is replaced after the other.
    have hleft : FormAlike (.add .binary64 a.unpacked b.unpacked)
        (.add .binary64 a'.unpacked b.unpacked) :=
      FormAlike.map (f := (.add .binary64 · b.unpacked)) (formAlike_add_left _) (formAlike h)
    exact alike_ofUnpacked (hleft.trans (FormAlike.map (formAlike_add_right _) (formAlike h')))
  mul_alike {a a' b b'} h h' := by
    rw [mul_eq, mul_eq]
    have hleft : FormAlike (.mul .binary64 a.unpacked b.unpacked)
        (.mul .binary64 a'.unpacked b.unpacked) :=
      FormAlike.map (f := (.mul .binary64 · b.unpacked)) (formAlike_mul_left _) (formAlike h)
    exact alike_ofUnpacked (hleft.trans (FormAlike.map (formAlike_mul_right _) (formAlike h')))
  div_alike {a a'} h b := by
    rw [div_eq, div_eq]
    exact alike_ofUnpacked
      (FormAlike.map (f := (.div .binary64 · b.unpacked)) (formAlike_div _) (formAlike h))
  mul_self {a} h := by
    obtain ⟨sign, hform⟩ := (isZero_iff a).1 h
    rw [mul_eq, hform]
    exact mul_self_zero sign

end InteriorPoint.Binary64
