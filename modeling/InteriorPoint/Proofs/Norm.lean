import Mathlib.Algebra.Order.BigOperators.Group.List
import Mathlib.Tactic.Linarith
import InteriorPoint.Norm
import InteriorPoint.Proofs.Scalar.Exact

/-!
# `InteriorPoint.Proofs.Norm`: what norms measure

The maximum norm passes over undefined entries. It is the norm of the
entries that are numbers (`ofVectors_max_numbers`), and always a number
itself.

In exact arithmetic every entry is a number. The maximum norm of a stack
of vectors is then the least bound of the absolute values of all its
entries (`ofVectors_max_le_iff`), and the sum norm is their sum
(`ofVectors_one`). Either bounds the other: the maximum is at most the
sum, and the sum is at most the number of entries times the maximum.

What is said of the maximum norm follows from two inductions over the
entries with the running maximum as start.
-/

set_option autoImplicit false

namespace InteriorPoint.Norm

/-! ### Undefined entries -/

section
variable {α : Type} [Scalar α]

/-- The entries that are numbers. -/
def numbers (entries : List α) : List α :=
  entries.filter fun entry => Scalar.IsNumber entry

variable [LawfulComparison α]

/-- The running maximum stays a number, and an undefined entry leaves it
as it is. -/
theorem foldl_max_numbers (entries : List α) {start : α} (hstart : Scalar.IsNumber start) :
    Scalar.IsNumber
        (entries.foldl (fun largest entry => Scalar.max largest (Scalar.abs entry)) start)
      ∧ (numbers entries).foldl
          (fun largest entry => Scalar.max largest (Scalar.abs entry)) start
        = entries.foldl (fun largest entry => Scalar.max largest (Scalar.abs entry)) start := by
  unfold numbers
  induction entries generalizing start with
  | nil => exact ⟨hstart, rfl⟩
  | cons entry entries ih =>
      obtain ⟨hnumber, hnumbers⟩ := ih (Scalar.isNumber_max_left hstart (Scalar.abs entry))
      refine ⟨hnumber, ?_⟩
      -- An entry that is no number is left out on one side and passed over on the other.
      by_cases hentry : Scalar.IsNumber entry
      · rw [List.filter_cons_of_pos (by simpa using hentry), List.foldl_cons, hnumbers,
          List.foldl_cons]
      · rw [Scalar.abs_of_not_isNumber hentry, Scalar.max_of_not_isNumber hstart hentry]
          at hnumbers
        rw [List.filter_cons_of_neg (by simpa using hentry), hnumbers, List.foldl_cons,
          Scalar.abs_of_not_isNumber hentry, Scalar.max_of_not_isNumber hstart hentry]

/-- The largest absolute value is a number, whatever the entries are. -/
theorem isNumber_ofVectors_max (vectors : List (List α)) :
    Scalar.IsNumber (Norm.max.ofVectors vectors) :=
  (foldl_max_numbers _ Scalar.isNumber_zero).1

/-- Undefined entries do not count. -/
theorem ofVectors_max_numbers (vectors : List (List α)) :
    Norm.max.ofVectors (vectors.map numbers) = Norm.max.ofVectors vectors := by
  refine Eq.trans ?_ (foldl_max_numbers vectors.flatten Scalar.isNumber_zero).2
  rw [numbers, List.filter_flatten]
  rfl

end

/-! ### Exact arithmetic -/

variable {K : Type} [Field K] [LinearOrder K] [ExactFunctions K] [IsStrictOrderedRing K]

/-- A running maximum is bounded if its start and all absolute values are.
-/
theorem foldl_max_le_iff (entries : List K) (start bound : K) :
    entries.foldl (fun largest entry => Scalar.max largest (Scalar.abs entry)) start ≤ bound
      ↔ start ≤ bound ∧ ∀ entry ∈ entries, |entry| ≤ bound := by
  induction entries generalizing start with
  | nil => simp
  | cons entry entries ih =>
      rw [List.foldl_cons, ih, Scalar.max_eq, Scalar.abs_eq, max_le_iff, List.forall_mem_cons,
        and_assoc]

variable {vectors : List (List K)} {bound : K}

/-- The maximum norm is the least bound of all absolute values. -/
theorem ofVectors_max_le_iff :
    ofVectors vectors .max ≤ bound ↔ 0 ≤ bound ∧ ∀ entry ∈ vectors.flatten, |entry| ≤ bound :=
  foldl_max_le_iff _ _ _

/-- It starts at zero. -/
theorem ofVectors_max_nonneg (vectors : List (List K)) : 0 ≤ (ofVectors vectors .max : K) :=
  (ofVectors_max_le_iff.1 (le_refl _)).1

/-- It bounds every entry. -/
theorem abs_le_ofVectors_max {entry : K} (h : entry ∈ vectors.flatten) :
    |entry| ≤ ofVectors vectors .max :=
  (ofVectors_max_le_iff.1 (le_refl _)).2 entry h

/-- Only a stack of zeros has norm zero. -/
theorem ofVectors_max_eq_zero_iff :
    ofVectors vectors .max = (0 : K) ↔ ∀ entry ∈ vectors.flatten, entry = 0 := by
  constructor
  · intro h entry hmem
    exact abs_nonpos_iff.1 (h ▸ abs_le_ofVectors_max hmem)
  · intro h
    -- If all entries are zero, zero is a bound on them.
    have hle : ∀ entry ∈ vectors.flatten, |entry| ≤ 0 := by
      intro entry hmem
      rw [h entry hmem, abs_zero]
    exact (ofVectors_max_le_iff.2 ⟨le_refl _, hle⟩).antisymm (ofVectors_max_nonneg _)

/-- The sum norm is the sum of the absolute values of all entries. -/
theorem ofVectors_one (vectors : List (List K)) :
    (ofVectors vectors .one : K) = (vectors.flatten.map fun entry => |entry|).sum := by
  -- Vector by vector, and then all vectors in a row.
  have habs : ∀ v : List K, Linear.sumAbs v = (v.map fun entry => |entry|).sum := by
    intro v
    rw [Linear.sumAbs, Scalar.sum_eq, List.map_congr_left fun entry _ => Scalar.abs_eq entry]
  change Scalar.sum (vectors.map Linear.sumAbs) = _
  rw [Scalar.sum_eq, List.map_congr_left fun v _ => habs v, List.map_flatten, List.sum_flatten,
    List.map_map]
  rfl

/-- It is a sum of numbers that are not negative. -/
theorem ofVectors_one_nonneg (vectors : List (List K)) : 0 ≤ (ofVectors vectors .one : K) := by
  rw [ofVectors_one]
  exact List.sum_nonneg (List.forall_mem_map.2 fun entry _ => abs_nonneg entry)

/-- The largest absolute value is one of those that are summed. -/
theorem ofVectors_max_le_one (vectors : List (List K)) :
    ofVectors vectors .max ≤ (ofVectors vectors .one : K) := by
  refine ofVectors_max_le_iff.2 ⟨ofVectors_one_nonneg vectors, fun entry hmem => ?_⟩
  rw [ofVectors_one]
  refine List.single_le_sum (List.forall_mem_map.2 fun entry _ => abs_nonneg entry) _ ?_
  exact List.mem_map_of_mem hmem

/-- Each absolute value is at most the largest. -/
theorem ofVectors_one_le (vectors : List (List K)) :
    (ofVectors vectors .one : K) ≤ vectors.flatten.length * ofVectors vectors .max := by
  have hle : ∀ a ∈ vectors.flatten.map fun entry => |entry|, a ≤ ofVectors vectors .max :=
    List.forall_mem_map.2 fun entry => abs_le_ofVectors_max
  rw [ofVectors_one, ← nsmul_eq_mul]
  exact (List.sum_le_card_nsmul _ _ hle).trans_eq (by rw [List.length_map])

/-- Adding a number to every entry changes the largest absolute value by
at most that of the number. -/
theorem ofVectors_max_shift_le (vectors : List (List K)) (a : K) :
    ofVectors (vectors.map (Linear.shift a)) .max ≤ ofVectors vectors .max + |a| := by
  have hshift : (vectors.map (Linear.shift a)).flatten = vectors.flatten.map (· + a) :=
    List.map_flatten.symm
  refine ofVectors_max_le_iff.2 ⟨add_nonneg (ofVectors_max_nonneg _) (abs_nonneg a), ?_⟩
  rw [hshift, List.forall_mem_map]
  intro entry hmem
  exact (abs_add_le entry a).trans (add_le_add_left (abs_le_ofVectors_max hmem) _)

/-- The other way, it changes by at most as much. -/
theorem abs_ofVectors_max_shift_sub_le (vectors : List (List K)) (a : K) :
    |ofVectors (vectors.map (Linear.shift a)) .max - ofVectors vectors .max| ≤ |a| := by
  -- The vectors come back by shifting the other way, so one inequality gives both.
  have hback : (vectors.map (Linear.shift a)).map (Linear.shift (-a)) = vectors := by
    simp [Linear.shift, Function.comp_def]
  have hforth := ofVectors_max_shift_le vectors a
  have hreturn := ofVectors_max_shift_le (vectors.map (Linear.shift a)) (-a)
  rw [hback, abs_neg] at hreturn
  rw [abs_sub_le_iff]
  exact ⟨by linarith, by linarith⟩

end InteriorPoint.Norm
