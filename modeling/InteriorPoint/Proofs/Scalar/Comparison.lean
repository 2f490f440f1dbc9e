import InteriorPoint.Scalar

/-!
# `InteriorPoint.Proofs.Scalar.Comparison`: what comparisons have in common

`Scalar` assumes no law. The theorems that compare numbers assume the
ones collected in `LawfulComparison`, which hold of every ordered field
and of binary64 with its undefined values, its infinities and its two
zeros (`InteriorPoint.Proofs.Scalar.Binary64`). None of them speaks of
arithmetic.

A value that is not a number is smaller than none, greater than none and
equal to none. The numbers are ordered linearly up to equality of their
values, so `Scalar.max` is an upper bound of each operand that is a
number (`le_max_right`), whatever the other one is. `Scalar.min` is a
lower bound in the same sense (`min_le_left`), and of two numbers the
greatest one (`le_min_iff`).
-/

set_option autoImplicit false

namespace InteriorPoint

/-- The laws of comparison. A comparison that holds has numbers on both
sides, and numbers are ordered linearly up to equality by value. -/
class LawfulComparison (α : Type) [Scalar α] : Prop where
  lt_iff_le_not_ge : ∀ a b : α, a < b ↔ a ≤ b ∧ ¬ b ≤ a
  le_trans : ∀ {a b c : α}, a ≤ b → b ≤ c → a ≤ c
  isNumber_left : ∀ {a b : α}, a ≤ b → Scalar.IsNumber a
  isNumber_right : ∀ {a b : α}, a ≤ b → Scalar.IsNumber b
  le_total : ∀ {a b : α}, Scalar.IsNumber a → Scalar.IsNumber b → a ≤ b ∨ b ≤ a
  tiny_pos : (0 : α) < Scalar.tiny

namespace Scalar

variable {α : Type} [Scalar α]

/-- Dropping the sign of a zero twice is the same as dropping it once.
No law is needed: a value equal to zero becomes `0` at the first step. -/
@[simp]
theorem unsigned_unsigned (a : α) : unsigned (unsigned a) = unsigned a := by
  unfold unsigned
  split
  · split <;> rfl
  · rfl

/-- Next to an undefined value a number is the larger one. -/
theorem max_of_not_isNumber {a b : α} (ha : IsNumber a) (hb : ¬ IsNumber b) : max a b = a := by
  rw [max, if_neg (not_not_intro ha), if_pos hb]

variable [LawfulComparison α]

/-- What is smaller is at most as large. -/
theorem le_of_lt {a b : α} (h : a < b) : a ≤ b :=
  ((LawfulComparison.lt_iff_le_not_ge a b).1 h).1

/-- A comparison that is strict does not hold the other way around. -/
theorem not_le_of_lt {a b : α} (h : a < b) : ¬ b ≤ a :=
  ((LawfulComparison.lt_iff_le_not_ge a b).1 h).2

/-- What is greater than something is a number. -/
theorem isNumber_of_lt {a b : α} (h : a < b) : IsNumber b :=
  LawfulComparison.isNumber_right (le_of_lt h)

/-- Numbers that are not ordered one way are ordered the other way. -/
theorem le_of_not_lt {a b : α} (ha : IsNumber a) (hb : IsNumber b) (h : ¬ a < b) : b ≤ a := by
  by_cases hba : b ≤ a
  · exact hba
  · have hab : a ≤ b := (LawfulComparison.le_total ha hb).resolve_right hba
    exact absurd ((LawfulComparison.lt_iff_le_not_ge a b).2 ⟨hab, hba⟩) h

/-- A strict comparison followed by another one is strict. -/
theorem lt_of_lt_of_le {a b c : α} (hab : a < b) (hbc : b ≤ c) : a < c := by
  refine (LawfulComparison.lt_iff_le_not_ge a c).2
    ⟨LawfulComparison.le_trans (le_of_lt hab) hbc, ?_⟩
  intro hca
  exact not_le_of_lt hab (LawfulComparison.le_trans hbc hca)

/-- The larger of two values is at least the second one, if that is a
number. The first may be undefined. -/
theorem le_max_right {a b : α} (hb : IsNumber b) : b ≤ max a b := by
  unfold max
  split
  · exact hb
  · rename_i ha
    -- Both are numbers from here on.
    rw [Decidable.not_not] at ha
    split
    · exact hb
    · rename_i hlt
      exact le_of_not_lt ha hb hlt

/-- One number is enough for the larger of two values to be a number. -/
theorem isNumber_max_right {b : α} (a : α) (hb : IsNumber b) : IsNumber (max a b) :=
  LawfulComparison.isNumber_right (le_max_right hb)

/-- The same with the number in the first place. -/
theorem isNumber_max_left {a : α} (ha : IsNumber a) (b : α) : IsNumber (max a b) := by
  by_cases hb : IsNumber b
  · exact isNumber_max_right a hb
  · rwa [max_of_not_isNumber ha hb]

/-- The smaller of two numbers is one of them, so a value is at most it if
it is at most both. -/
theorem le_min_iff {a b c : α} (ha : IsNumber a) (hb : IsNumber b) :
    c ≤ min a b ↔ c ≤ a ∧ c ≤ b := by
  rw [min, if_neg (not_not_intro ha), if_neg (not_not_intro hb)]
  -- The minimum is the operand that lost the comparison, and the other one is above it.
  split
  · rename_i hlt
    exact ⟨fun hc => ⟨LawfulComparison.le_trans hc (le_of_lt hlt), hc⟩, fun hc => hc.2⟩
  · rename_i hlt
    exact ⟨fun hc => ⟨hc, LawfulComparison.le_trans hc (le_of_not_lt hb ha hlt)⟩, fun hc => hc.1⟩

omit [LawfulComparison α] in
/-- The smaller of two numbers is a number. -/
theorem isNumber_min {a b : α} (ha : IsNumber a) (hb : IsNumber b) : IsNumber (min a b) := by
  rw [min, if_neg (not_not_intro ha), if_neg (not_not_intro hb)]
  split
  · exact hb
  · exact ha

/-- The running minimum of numbers is a number, and their greatest lower
bound. -/
theorem le_foldl_min_iff {β : Type} {own : β → α} (hown : ∀ b, IsNumber (own b))
    (entries : List β) {start : α} (hstart : IsNumber start) :
    IsNumber (entries.foldl (fun lowest b => min lowest (own b)) start)
      ∧ ∀ c, c ≤ entries.foldl (fun lowest b => min lowest (own b)) start
        ↔ c ≤ start ∧ ∀ b ∈ entries, c ≤ own b := by
  induction entries generalizing start with
  | nil => exact ⟨hstart, by simp⟩
  | cons b entries ih =>
      -- The rest starts from a number again.
      obtain ⟨hnumber, hlower⟩ := ih (isNumber_min hstart (hown b))
      refine ⟨hnumber, fun c => ?_⟩
      rw [List.foldl_cons, hlower, le_min_iff hstart (hown b), List.forall_mem_cons, and_assoc]

/-- The smaller of two values is at most the first one, if that is a
number. The second may be undefined. -/
theorem min_le_left {a b : α} (ha : IsNumber a) : min a b ≤ a := by
  by_cases hb : IsNumber b
  · exact ((le_min_iff ha hb).1 (isNumber_min ha hb)).1
  · rw [min, if_neg (not_not_intro ha), if_pos hb]
    exact ha

omit [LawfulComparison α] in
/-- The larger of two values is at most what both are at most. -/
theorem max_le {a b c : α} (ha : a ≤ c) (hb : b ≤ c) : max a b ≤ c := by
  -- Whichever operand is the maximum, it is bounded by assumption.
  unfold max
  split
  · exact hb
  · split
    · exact ha
    · split
      · exact hb
      · exact ha

omit [LawfulComparison α] in
/-- Two numbers with the same lower bounds are equal by value. -/
theorem same_of_le_iff {a b : α} (ha : IsNumber a) (hb : IsNumber b)
    (h : ∀ c, c ≤ a ↔ c ≤ b) : Same a b :=
  ⟨(h a).1 ha, (h b).2 hb⟩

/-- The absolute value of an undefined value is that value: it is neither
negative nor a zero. -/
theorem abs_of_not_isNumber {a : α} (ha : ¬ IsNumber a) : abs a = a := by
  -- Neither test of the absolute value can succeed.
  have hneg : ¬ a < 0 := fun h => ha (LawfulComparison.isNumber_left (le_of_lt h))
  have hzero : ¬ IsZero a := fun h => ha (LawfulComparison.isNumber_left h.1)
  rw [abs, if_neg hneg, unsigned, if_neg hzero]

/-- Zero is a number. -/
theorem isNumber_zero : IsNumber (0 : α) :=
  LawfulComparison.isNumber_left (le_of_lt LawfulComparison.tiny_pos)

end Scalar

end InteriorPoint
