import Mathlib
import InteriorPoint.Proofs.Scalar.Comparison
import InteriorPoint.Scalar.Binary64

/-!
# `InteriorPoint.Proofs.Scalar.Binary64`: binary64 numbers compare lawfully

The comparisons of binary64 are those of the unpacked form, a sign, a
mantissa and an exponent. `position` places every number on a line: by
the sign first, then by the exponent and last by the mantissa, both
reversed below zero. A number is at most another exactly if its position
is (`le_iff_position`), so the laws of comparison are those of a linear
order, and an undefined value drops out of every one of them.

No use is made of the exponent being normalized. Two unpacked forms of
one value may then compare as different, but every comparison is still
that of a linear order.
-/

set_option autoImplicit false

namespace InteriorPoint.Binary64

open Float.Model (UnpackedFloat)

/-- Where a number stands: its sign, or twice its sign if it is
infinite, then exponent and mantissa. An undefined value stands with
zero, which no statement below reads. -/
def position : UnpackedFloat → ℤ ×ₗ ℤ ×ₗ ℤ
  | .infinity .negative => toLex (-2, toLex (0, 0))
  | .finite .negative mantissa exponent _ => toLex (-1, toLex (-exponent, -(mantissa : ℤ)))
  | .zero _ | .notANumber => toLex (0, toLex (0, 0))
  | .finite .positive mantissa exponent _ => toLex (1, toLex (exponent, (mantissa : ℤ)))
  | .infinity .positive => toLex (2, toLex (0, 0))

/-- `≤` holds between numbers only, and is the order of their
positions. -/
theorem le_iff_position (a b : UnpackedFloat) :
    a.le b = true ↔ a.isNaN = false ∧ b.isNaN = false ∧ position a ≤ position b := by
  rcases a with (_ | _) | _ | _ | ⟨(_ | _), ma, ea, _⟩ <;>
    rcases b with (_ | _) | _ | _ | ⟨(_ | _), mb, eb, _⟩ <;>
    simp [UnpackedFloat.le, UnpackedFloat.compare, UnpackedFloat.isNaN, position,
      Prod.Lex.toLex_le_toLex, Ordering.isLE, compare, compareOfLessAndEq, Ordering.swap,
      Ordering.then]
  -- What is left are two finite numbers of one sign.
  all_goals split <;> grind

/-- `<` holds between numbers only, and is the strict order of their
positions. -/
theorem lt_iff_position (a b : UnpackedFloat) :
    a.lt b = true ↔ a.isNaN = false ∧ b.isNaN = false ∧ position a < position b := by
  rcases a with (_ | _) | _ | _ | ⟨(_ | _), ma, ea, _⟩ <;>
    rcases b with (_ | _) | _ | _ | ⟨(_ | _), mb, eb, _⟩ <;>
    simp [UnpackedFloat.lt, UnpackedFloat.compare, UnpackedFloat.isNaN, position,
      Prod.Lex.toLex_lt_toLex, compare, compareOfLessAndEq, Ordering.swap, Ordering.then]
  -- Again two finite numbers of one sign are left.
  all_goals split <;> grind

/-- The unpacked form of a number. -/
def unpacked (a : Binary64) : UnpackedFloat :=
  a.toFloat.toModel.unpack

/-- `≤` reads the unpacked forms. -/
theorem le_iff (a b : Binary64) : a ≤ b ↔ a.unpacked.le b.unpacked = true :=
  decide_eq_true_iff (p := a.unpacked.le b.unpacked = true)

/-- So does `<`. -/
theorem lt_iff (a b : Binary64) : a < b ↔ a.unpacked.lt b.unpacked = true :=
  decide_eq_true_iff (p := a.unpacked.lt b.unpacked = true)

/-- A number compares with itself, and only the undefined value does not.
-/
theorem isNumber_iff (a : Binary64) : Scalar.IsNumber a ↔ a.unpacked.isNaN = false := by
  unfold Scalar.IsNumber
  rw [le_iff, le_iff_position]
  simp

/-- The laws of comparison, read off the positions. -/
instance : LawfulComparison Binary64 where
  lt_iff_le_not_ge a b := by
    rw [lt_iff, le_iff, le_iff, lt_iff_position, le_iff_position, le_iff_position, lt_iff_le_not_ge]
    tauto
  le_trans {a b c} hab hbc := by
    rw [le_iff, le_iff_position] at hab hbc ⊢
    exact ⟨hab.1, hbc.2.1, hab.2.2.trans hbc.2.2⟩
  isNumber_left {a b} h := by
    rw [le_iff, le_iff_position] at h
    exact (isNumber_iff a).2 h.1
  isNumber_right {a b} h := by
    rw [le_iff, le_iff_position] at h
    exact (isNumber_iff b).2 h.2.1
  le_total {a b} ha hb := by
    rw [isNumber_iff] at ha hb
    rw [le_iff, le_iff, le_iff_position, le_iff_position]
    -- Positions are on a line, and so are numbers.
    rcases le_total (position a.unpacked) (position b.unpacked) with h | h
    · exact Or.inl ⟨ha, hb, h⟩
    · exact Or.inr ⟨hb, ha, h⟩
  tiny_pos := by decide +kernel

end InteriorPoint.Binary64
