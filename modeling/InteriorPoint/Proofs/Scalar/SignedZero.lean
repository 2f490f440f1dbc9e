import InteriorPoint.Proofs.Scalar.Exact

/-!
# `InteriorPoint.Proofs.Scalar.SignedZero`: the sign of a zero

Two zeros are equal by value and may differ in their sign. `Alike` says
that two values are the same but for that: they are one value, or both
are zeros. Unlike `Same` it holds of an undefined value and itself, and
unlike `Same` it never identifies two numbers that are not zero.

`LawfulZero` collects what is needed of arithmetic. The sign of a zero
has an effect on the signs of zeros only, as long as nothing is divided
by it, and the square of a zero is the zero without a sign. Both hold in
exact arithmetic, where there is one zero, and in binary64
(`InteriorPoint.Proofs.Scalar.Unpacked`).

Comparisons do not see the sign at all. Wherever a value is only
compared, or ends up in a maximum with a positive number or in an
absolute value, alike operands give one result (`Alike.max_eq`,
`Alike.abs_eq`).
-/

set_option autoImplicit false

namespace InteriorPoint

namespace Scalar

variable {α : Type} [Scalar α]

/-- The same value up to the sign of a zero. -/
def Alike (a b : α) : Prop :=
  a = b ∨ IsZero a ∧ IsZero b

namespace Alike

variable {a b c : α}

/-- Every value is like itself, also if it is undefined. -/
@[refl]
theorem refl (a : α) : Alike a a :=
  Or.inl rfl

/-- Likeness does not depend on the order of the two values. -/
theorem symm (h : Alike a b) : Alike b a :=
  h.imp Eq.symm And.symm

/-- Likeness carries over from one pair to the next. -/
theorem trans (h : Alike a b) (h' : Alike b c) : Alike a c := by
  rcases h with rfl | ⟨ha, hb⟩
  · exact h'
  · rcases h' with rfl | ⟨-, hc⟩
    · exact Or.inr ⟨ha, hb⟩
    · exact Or.inr ⟨ha, hc⟩

end Alike

/-! ### Comparisons -/

variable [LawfulComparison α] {a b c : α}

/-- Zeros are equal by value. -/
theorem same_of_isZero (ha : IsZero a) (hb : IsZero b) : Same a b :=
  ⟨LawfulComparison.le_trans ha.1 hb.2, LawfulComparison.le_trans hb.1 ha.2⟩

/-- Values that are equal are below the same values. -/
theorem lt_congr_left (h : Same a b) : a < c ↔ b < c := by
  rw [LawfulComparison.lt_iff_le_not_ge, LawfulComparison.lt_iff_le_not_ge]
  -- Each of the two comparisons carries over, in both directions.
  have hle : a ≤ c ↔ b ≤ c := ⟨LawfulComparison.le_trans h.2, LawfulComparison.le_trans h.1⟩
  have hge : c ≤ a ↔ c ≤ b :=
    ⟨fun hc => LawfulComparison.le_trans hc h.1, fun hc => LawfulComparison.le_trans hc h.2⟩
  rw [hle, hge]

/-- Values that are equal are above the same values. -/
theorem lt_congr_right (h : Same a b) : c < a ↔ c < b := by
  rw [LawfulComparison.lt_iff_le_not_ge, LawfulComparison.lt_iff_le_not_ge]
  have hle : a ≤ c ↔ b ≤ c := ⟨LawfulComparison.le_trans h.2, LawfulComparison.le_trans h.1⟩
  have hge : c ≤ a ↔ c ≤ b :=
    ⟨fun hc => LawfulComparison.le_trans hc h.1, fun hc => LawfulComparison.le_trans hc h.2⟩
  rw [hle, hge]

/-- Zero without a sign is a zero. -/
theorem isZero_zero : IsZero (0 : α) :=
  ⟨isNumber_zero, isNumber_zero⟩

/-- A positive number is not a zero. -/
theorem not_isZero_of_pos (h : 0 < a) : ¬ IsZero a := fun hzero =>
  not_le_of_lt h hzero.1

/-- Keys of caches drop the sign of a zero and nothing else. -/
theorem unsigned_eq_iff : unsigned a = unsigned b ↔ Alike a b := by
  unfold unsigned
  by_cases ha : IsZero a
  · by_cases hb : IsZero b
    · simp only [if_pos ha, if_pos hb, true_iff]
      exact Or.inr ⟨ha, hb⟩
    · rw [if_pos ha, if_neg hb]
      constructor
      · rintro rfl
        exact absurd isZero_zero hb
      · rintro (rfl | ⟨-, hzero⟩)
        · exact absurd ha hb
        · exact absurd hzero hb
  · rw [if_neg ha]
    split
    · rename_i hb
      constructor
      · rintro rfl
        exact absurd isZero_zero ha
      · rintro (rfl | ⟨hzero, -⟩)
        · exact absurd hb ha
        · exact absurd hzero ha
    · exact ⟨Or.inl, fun h => h.resolve_right fun hzeros => ha hzeros.1⟩

namespace Alike

/-- Alike numbers are equal by value. -/
theorem same (h : Alike a b) (ha : IsNumber a) : Same a b := by
  rcases h with rfl | ⟨ha, hb⟩
  · exact ⟨ha, ha⟩
  · exact same_of_isZero ha hb

/-- What is like a positive number is that number. -/
theorem eq_of_pos (h : Alike a b) (ha : 0 < a) : a = b :=
  h.resolve_right fun hzeros => not_isZero_of_pos ha hzeros.1

/-- Of two alike values both are positive or neither is. -/
theorem pos_iff (h : Alike a b) : 0 < a ↔ 0 < b := by
  rcases h with rfl | ⟨ha, hb⟩
  · rfl
  · exact lt_congr_right (same_of_isZero ha hb)

/-- The sign of a zero does not decide a minimum. -/
theorem min (h : Alike a b) (c : α) : Alike (Scalar.min a c) (Scalar.min b c) := by
  rcases h with rfl | ⟨ha, hb⟩
  · rfl
  · have hsame := same_of_isZero ha hb
    have hna : IsNumber a := LawfulComparison.isNumber_left hsame.1
    have hnb : IsNumber b := LawfulComparison.isNumber_left hsame.2
    unfold Scalar.min
    rw [if_neg (not_not_intro hna), if_neg (not_not_intro hnb)]
    -- The other operand is smaller than both zeros or than neither.
    simp only [lt_congr_right (c := c) hsame]
    split
    · exact Or.inr ⟨ha, hb⟩
    · split
      · rfl
      · exact Or.inr ⟨ha, hb⟩

/-- In a maximum with a positive number a zero is passed over. -/
theorem max_eq (h : Alike a b) (hc : 0 < c) : Scalar.max a c = Scalar.max b c := by
  -- Above zero, either zero gives way to the other operand.
  have hzero : ∀ {z : α}, IsZero z → Scalar.max z c = c := by
    intro z hz
    have hlt : z < c := (lt_congr_left hz).2 hc
    have hnumber : IsNumber z := LawfulComparison.isNumber_left hz.1
    rw [Scalar.max, if_neg (not_not_intro hnumber), if_neg (not_not_intro (isNumber_of_lt hc)),
      if_pos hlt]
  rcases h with rfl | ⟨ha, hb⟩
  · rfl
  · rw [hzero ha, hzero hb]

/-- An absolute value has no sign, so that of a zero is lost. -/
theorem abs_eq (h : Alike a b) : Scalar.abs a = Scalar.abs b := by
  have hzero : ∀ {z : α}, IsZero z → Scalar.abs z = 0 := by
    intro z hz
    rw [Scalar.abs, if_neg fun hneg => not_le_of_lt hneg hz.2, unsigned, if_pos hz]
  rcases h with rfl | ⟨ha, hb⟩
  · rfl
  · rw [hzero ha, hzero hb]

end Alike

end Scalar

open Scalar

/-- The sign of a zero has an effect on the signs of zeros only, if
nothing is divided by it. The square of a zero has no sign. -/
class LawfulZero (α : Type) [Scalar α] : Prop where
  neg_alike : ∀ {a a' : α}, Alike a a' → Alike (-a) (-a')
  add_alike : ∀ {a a' b b' : α}, Alike a a' → Alike b b' → Alike (a + b) (a' + b')
  mul_alike : ∀ {a a' b b' : α}, Alike a a' → Alike b b' → Alike (a * b) (a' * b')
  div_alike : ∀ {a a' : α}, Alike a a' → ∀ b, Alike (a / b) (a' / b)
  mul_self : ∀ {a : α}, IsZero a → a * a = 0

/-! ### Exact arithmetic -/

section
variable {K : Type} [Field K] [LinearOrder K] [ExactFunctions K]

/-- An ordered field has one zero. -/
theorem Scalar.alike_iff_eq {a b : K} : Alike a b ↔ a = b := by
  refine ⟨fun h => ?_, Or.inl⟩
  rcases h with rfl | ⟨ha, hb⟩
  · rfl
  · rw [isZero_iff.1 ha, isZero_iff.1 hb]

/-- In an ordered field likeness is equality, so nothing is left to show
but that zero squared is zero. -/
instance : LawfulZero K where
  neg_alike h := by rw [alike_iff_eq.1 h]
  add_alike h h' := by rw [alike_iff_eq.1 h, alike_iff_eq.1 h']
  mul_alike h h' := by rw [alike_iff_eq.1 h, alike_iff_eq.1 h']
  div_alike h b := by rw [alike_iff_eq.1 h]
  mul_self h := by
    rw [isZero_iff.1 h]
    exact mul_zero (0 : K)

end

end InteriorPoint
