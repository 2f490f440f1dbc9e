import Mathlib.Algebra.BigOperators.Fin
import Mathlib.Algebra.Order.Chebyshev
import InteriorPoint.Proofs.Linear.Exact
import InteriorPoint.Proofs.Norm

/-!
# `InteriorPoint.Proofs.Norm.Laws`: norms of the stacked vector

The three norms reduce a list of vectors in three ways: a sum of sums, the
root of a sum of dot products, and one pass over all entries. In exact
arithmetic each of them depends on the entries alone and not on how they
are divided into vectors (`ofVectors_one`, `ofVectors_two`, and the
definition of the maximum). The root enters by its square only: it is any
function that has the property `HasRoots`.

`Laws` lists what is proved of a list of vectors: it may be regrouped and
reordered, the three norms are comparable, and each of them is a norm.
Most of the comparisons go through one inequality, that the square of the
Euclidean norm is at most the product of the other two norms
(`ofVectors_two_sq_le`). The converse direction is an inequality between
a sum and a sum of squares, which is that of Cauchy and Schwarz.
-/

set_option autoImplicit false

namespace InteriorPoint

variable {K : Type} [Field K] [LinearOrder K] [ExactFunctions K]

/-- The root of a number that is not negative is a number of this kind
whose square it is. -/
def HasRoots (K : Type) [Field K] [LinearOrder K] [ExactFunctions K] : Prop :=
  ∀ a : K, 0 ≤ a → 0 ≤ (Scalar.sqrt a : K) ∧ (Scalar.sqrt a : K) ^ 2 = a

namespace Norm

/-- Two lists of vectors added vector by vector and entry by entry. -/
def sumOfVectors (vectors vectors' : List (List K)) : List (List K) :=
  List.zipWith (List.zipWith (· + ·)) vectors vectors'

/-- Every entry of a list of vectors multiplied by `c`. -/
def scaledVectors (c : K) (vectors : List (List K)) : List (List K) :=
  vectors.map (List.map (c * ·))

/-! ### Entries -/

/-- The norm is the root of the sum of the squares of all entries. -/
theorem ofVectors_two (vectors : List (List K)) :
    ofVectors vectors .two = (Scalar.sqrt (vectors.flatten.map (· ^ 2)).sum : K) := by
  -- Vector by vector, where the lanes do not matter in exact arithmetic.
  have hsquare : ∀ v : List K, Linear.squaredLength v = (v.map (· ^ 2)).sum := by
    intro v
    rw [Linear.squaredLength, Linear.laneDot_eq, List.zipWith_self]
    simp only [pow_two]
  change Scalar.sqrt (Scalar.sum (vectors.map Linear.squaredLength)) = _
  rw [Scalar.sum_eq, List.map_congr_left fun v _ => hsquare v, List.map_flatten, List.sum_flatten,
    List.map_map]
  rfl

/-- To scale vectors is to scale all their entries. -/
theorem flatten_scaledVectors (c : K) (vectors : List (List K)) :
    (scaledVectors c vectors).flatten = vectors.flatten.map (c * ·) :=
  List.map_flatten.symm

/-- To add vectors of the same sizes is to add all their entries. -/
theorem flatten_sumOfVectors {vectors vectors' : List (List K)}
    (hshape : vectors.map List.length = vectors'.map List.length) :
    (sumOfVectors vectors vectors').flatten
      = List.zipWith (· + ·) vectors.flatten vectors'.flatten := by
  unfold sumOfVectors
  induction vectors generalizing vectors' with
  | nil => simp
  | cons v vectors ih =>
      cases vectors' with
      | nil => cases hshape
      | cons v' vectors' =>
          -- The first vectors have one length, so the rest is aligned.
          obtain ⟨hlength, hrest⟩ := List.cons.inj hshape
          rw [List.zipWith_cons_cons, List.flatten_cons, ih hrest, List.flatten_cons,
            List.flatten_cons, List.zipWith_append hlength]

variable [IsStrictOrderedRing K]

/-- The norm does not depend on the order of the entries, nor on how they
are divided into vectors. -/
theorem ofVectors_perm (norm : Norm) {vectors vectors' : List (List K)}
    (h : vectors.flatten.Perm vectors'.flatten) :
    (norm.ofVectors vectors : K) = norm.ofVectors vectors' := by
  cases norm with
  | one =>
      rw [ofVectors_one, ofVectors_one]
      exact (h.map _).sum_eq
  | two =>
      rw [ofVectors_two, ofVectors_two]
      exact congrArg Scalar.sqrt (h.map _).sum_eq
  | max =>
      -- Each side bounds the entries of the other, since these are the same.
      refine le_antisymm ?_ ?_ <;> refine ofVectors_max_le_iff.2 ⟨ofVectors_max_nonneg _, ?_⟩
      · exact fun entry hmem => abs_le_ofVectors_max (h.mem_iff.1 hmem)
      · exact fun entry hmem => abs_le_ofVectors_max (h.mem_iff.2 hmem)

/-! ### Comparisons -/

section
variable (hroots : HasRoots K)
include hroots

/-- A root is not negative. -/
theorem ofVectors_two_nonneg (vectors : List (List K)) : 0 ≤ (ofVectors vectors .two : K) := by
  rw [ofVectors_two]
  refine (hroots _ (List.sum_nonneg ?_)).1
  exact List.forall_mem_map.2 fun entry _ => sq_nonneg entry

/-- And its square is the sum. -/
theorem ofVectors_two_sq (vectors : List (List K)) :
    (ofVectors vectors .two : K) ^ 2 = (vectors.flatten.map (· ^ 2)).sum := by
  rw [ofVectors_two]
  refine (hroots _ (List.sum_nonneg ?_)).2
  exact List.forall_mem_map.2 fun entry _ => sq_nonneg entry

/-- A norm is never negative. -/
theorem ofVectors_nonneg (norm : Norm) (vectors : List (List K)) :
    0 ≤ (norm.ofVectors vectors : K) := by
  cases norm with
  | one => exact ofVectors_one_nonneg vectors
  | two => exact ofVectors_two_nonneg hroots vectors
  | max => exact ofVectors_max_nonneg vectors

/-- A square is at most the absolute value times the largest one. -/
theorem ofVectors_two_sq_le (vectors : List (List K)) :
    (ofVectors vectors .two : K) ^ 2 ≤ ofVectors vectors .one * ofVectors vectors .max := by
  rw [ofVectors_two_sq hroots, ofVectors_one, ← List.sum_map_mul_right]
  refine List.sum_le_sum fun entry hmem => ?_
  rw [← sq_abs, pow_two]
  exact mul_le_mul_of_nonneg_left (abs_le_ofVectors_max hmem) (abs_nonneg entry)

/-- The largest absolute value is at most the root of the sum of squares.
-/
theorem ofVectors_max_le_two (vectors : List (List K)) :
    (ofVectors vectors .max : K) ≤ ofVectors vectors .two := by
  have htwo := ofVectors_two_nonneg hroots vectors
  refine ofVectors_max_le_iff.2 ⟨htwo, fun entry hmem => abs_le_of_sq_le_sq ?_ htwo⟩
  -- The square of an entry is one of those that are summed.
  rw [ofVectors_two_sq hroots]
  refine List.single_le_sum (List.forall_mem_map.2 fun entry _ => sq_nonneg entry) _ ?_
  exact List.mem_map_of_mem hmem

/-- That root is at most the sum of the absolute values. -/
theorem ofVectors_two_le_one (vectors : List (List K)) :
    (ofVectors vectors .two : K) ≤ ofVectors vectors .one := by
  have hone : 0 ≤ (ofVectors vectors .one : K) := ofVectors_one_nonneg vectors
  refine le_of_sq_le_sq ?_ hone
  calc (ofVectors vectors .two : K) ^ 2
      ≤ ofVectors vectors .one * ofVectors vectors .max := ofVectors_two_sq_le hroots vectors
    _ ≤ ofVectors vectors .one * ofVectors vectors .one :=
        mul_le_mul_of_nonneg_left (ofVectors_max_le_one vectors) hone
    _ = (ofVectors vectors .one : K) ^ 2 := (pow_two _).symm

/-- Each square is at most the largest. -/
theorem ofVectors_two_sq_le_max (vectors : List (List K)) :
    (ofVectors vectors .two : K) ^ 2
      ≤ vectors.flatten.length * (ofVectors vectors .max : K) ^ 2 := by
  calc (ofVectors vectors .two : K) ^ 2
      ≤ ofVectors vectors .one * ofVectors vectors .max := ofVectors_two_sq_le hroots vectors
    _ ≤ vectors.flatten.length * ofVectors vectors .max * ofVectors vectors .max :=
        mul_le_mul_of_nonneg_right (ofVectors_one_le vectors) (ofVectors_max_nonneg vectors)
    _ = vectors.flatten.length * (ofVectors vectors .max : K) ^ 2 := by rw [mul_assoc, pow_two]

/-- The inequality of Cauchy and Schwarz for the absolute values and as
many ones. -/
theorem ofVectors_one_sq_le (vectors : List (List K)) :
    (ofVectors vectors .one : K) ^ 2
      ≤ vectors.flatten.length * (ofVectors vectors .two : K) ^ 2 := by
  -- The library states it for finite sums, so the entries are indexed by their places.
  rw [ofVectors_two_sq hroots, ofVectors_one, ← Fin.sum_univ_fun_getElem,
    ← Fin.sum_univ_fun_getElem]
  have h := sq_sum_le_card_mul_sum_sq (s := Finset.univ)
    (f := fun i : Fin vectors.flatten.length => |vectors.flatten[i]|)
  simp only [sq_abs, Finset.card_univ, Fintype.card_fin] at h
  exact h

/-- Only a stack of zeros has norm zero, whichever norm it is. -/
theorem ofVectors_eq_zero_iff (norm : Norm) {vectors : List (List K)} :
    norm.ofVectors vectors = (0 : K) ↔ ∀ entry ∈ vectors.flatten, entry = 0 := by
  rw [← ofVectors_max_eq_zero_iff]
  -- Every norm lies between the maximum and a multiple of it.
  have hmax : (ofVectors vectors .max : K) ≤ norm.ofVectors vectors := by
    cases norm with
    | one => exact ofVectors_max_le_one vectors
    | two => exact ofVectors_max_le_two hroots vectors
    | max => exact le_refl _
  have hone : (norm.ofVectors vectors : K) ≤ ofVectors vectors .one := by
    cases norm with
    | one => exact le_refl _
    | two => exact ofVectors_two_le_one hroots vectors
    | max => exact ofVectors_max_le_one vectors
  constructor
  · intro hzero
    exact le_antisymm (hmax.trans_eq hzero) (ofVectors_max_nonneg vectors)
  · intro hzero
    have hle := hone.trans (ofVectors_one_le vectors)
    rw [hzero, mul_zero] at hle
    exact le_antisymm hle (ofVectors_nonneg hroots norm vectors)

end

/-! ### Scaling and adding -/

/-- A running maximum of scaled entries is the scaled maximum. -/
theorem foldl_max_scale (c : K) (entries : List K) (start : K) :
    (entries.map (c * ·)).foldl (fun largest entry => Scalar.max largest (Scalar.abs entry))
        (|c| * start)
      = |c| * entries.foldl (fun largest entry => Scalar.max largest (Scalar.abs entry)) start := by
  induction entries generalizing start with
  | nil => rfl
  | cons entry entries ih =>
      rw [List.map_cons, List.foldl_cons, List.foldl_cons, ← ih, Scalar.abs_eq, Scalar.abs_eq,
        abs_mul, Scalar.max_eq, Scalar.max_eq, mul_max_of_nonneg _ _ (abs_nonneg c)]

/-- A norm is scaled by the absolute value of the factor. -/
theorem ofVectors_scaledVectors (hroots : HasRoots K) (norm : Norm) (c : K)
    (vectors : List (List K)) :
    (norm.ofVectors (scaledVectors c vectors) : K) = |c| * norm.ofVectors vectors := by
  cases norm with
  | one =>
      rw [ofVectors_one, ofVectors_one, flatten_scaledVectors, List.map_map,
        ← List.sum_map_mul_left]
      simp only [Function.comp_def, abs_mul]
  | two =>
      -- Both sides are not negative and have the same square.
      have hleft := ofVectors_two_nonneg hroots (scaledVectors c vectors)
      have hright := mul_nonneg (abs_nonneg c) (ofVectors_two_nonneg hroots vectors)
      rw [← sq_eq_sq₀ hleft hright, mul_pow, ofVectors_two_sq hroots, ofVectors_two_sq hroots,
        flatten_scaledVectors, List.map_map, sq_abs, ← List.sum_map_mul_left]
      simp only [Function.comp_def, mul_pow]
  | max =>
      change (scaledVectors c vectors).flatten.foldl _ 0 = |c| * vectors.flatten.foldl _ 0
      rw [flatten_scaledVectors, ← foldl_max_scale, mul_zero]

/-- The inequality of Cauchy and Schwarz for the dot product. -/
theorem sq_laneDot_le (u v : List K) :
    Linear.laneDot u v ^ 2 ≤ (u.map (· ^ 2)).sum * (v.map (· ^ 2)).sum := by
  have hsum : ∀ w : List K, 0 ≤ (w.map (· ^ 2)).sum := fun w =>
    List.sum_nonneg (List.forall_mem_map.2 fun entry _ => sq_nonneg entry)
  induction u generalizing v with
  | nil => simp
  | cons a u ih =>
      cases v with
      | nil => simp
      | cons b v =>
          have hrest := ih v
          have hu := hsum u
          have hv := hsum v
          simp only [Linear.laneDot_cons, List.map_cons, List.sum_cons]
          generalize Linear.laneDot u v = dot, (u.map (· ^ 2)).sum = A, (v.map (· ^ 2)).sum = B at *
          -- The mixed term is at most the sum of the mixed products.
          have hmixed : 2 * (a * b * dot) ≤ a ^ 2 * B + b ^ 2 * A := by
            refine le_of_abs_le (abs_le_of_sq_le_sq ?_ ?_)
            · have hproduct := mul_le_mul_of_nonneg_left hrest (sq_nonneg (2 * (a * b)))
              nlinarith [sq_nonneg (a ^ 2 * B - b ^ 2 * A)]
            · exact add_nonneg (mul_nonneg (sq_nonneg a) hv) (mul_nonneg (sq_nonneg b) hu)
          nlinarith

omit [IsStrictOrderedRing K] in
/-- The squares of a sum, with the mixed terms as a dot product. -/
theorem sum_sq_add {u v : List K} (hlength : u.length = v.length) :
    ((List.zipWith (· + ·) u v).map (· ^ 2)).sum
      = (u.map (· ^ 2)).sum + 2 * Linear.laneDot u v + (v.map (· ^ 2)).sum := by
  -- On both vectors at once; the dot product adds up in the same order.
  induction u generalizing v with
  | nil =>
      cases v with
      | nil => simp
      | cons b v => cases hlength
  | cons a u ih =>
      cases v with
      | nil => cases hlength
      | cons b v =>
          have hrest := ih (Nat.succ.inj hlength)
          simp only [List.zipWith_cons_cons, List.map_cons, List.sum_cons, Linear.laneDot_cons,
            hrest]
          ring

section
variable {vectors vectors' : List (List K)}
  (hshape : vectors.map List.length = vectors'.map List.length)
include hshape

/-- The triangle inequality, entry by entry. -/
theorem ofVectors_one_add_le :
    (ofVectors (sumOfVectors vectors vectors') .one : K)
      ≤ ofVectors vectors .one + ofVectors vectors' .one := by
  have hsum : ∀ u v : List K, u.length = v.length →
      ((List.zipWith (· + ·) u v).map fun entry => |entry|).sum
        ≤ (u.map fun entry => |entry|).sum + (v.map fun entry => |entry|).sum := by
    intro u v hlength
    induction u generalizing v with
    | nil =>
        cases v with
        | nil => simp
        | cons b v => cases hlength
    | cons a u ih =>
        cases v with
        | nil => cases hlength
        | cons b v =>
            have hrest := ih v (Nat.succ.inj hlength)
            have hfirst := abs_add_le a b
            simp only [List.zipWith_cons_cons, List.map_cons, List.sum_cons]
            linarith
  rw [ofVectors_one, ofVectors_one, ofVectors_one, flatten_sumOfVectors hshape]
  -- Both stacks have as many entries.
  refine hsum _ _ ?_
  rw [List.length_flatten, List.length_flatten, hshape]

/-- The sum of two entries is at most that of the two largest. -/
theorem ofVectors_max_add_le :
    (ofVectors (sumOfVectors vectors vectors') .max : K)
      ≤ ofVectors vectors .max + ofVectors vectors' .max := by
  refine ofVectors_max_le_iff.2
    ⟨add_nonneg (ofVectors_max_nonneg _) (ofVectors_max_nonneg _), fun entry hmem => ?_⟩
  -- An entry of the sum is the sum of the entries at its place.
  rw [flatten_sumOfVectors hshape] at hmem
  obtain ⟨i, hi, rfl⟩ := List.mem_iff_getElem.1 hmem
  rw [List.getElem_zipWith]
  exact (abs_add_le _ _).trans (add_le_add (abs_le_ofVectors_max (List.getElem_mem _))
    (abs_le_ofVectors_max (List.getElem_mem _)))

/-- The triangle inequality for the root, from that of Cauchy and Schwarz.
-/
theorem ofVectors_two_add_le (hroots : HasRoots K) :
    (ofVectors (sumOfVectors vectors vectors') .two : K)
      ≤ ofVectors vectors .two + ofVectors vectors' .two := by
  have hlength : vectors.flatten.length = vectors'.flatten.length := by
    rw [List.length_flatten, List.length_flatten, hshape]
  have htwo := ofVectors_two_nonneg hroots vectors
  have htwo' := ofVectors_two_nonneg hroots vectors'
  have hdot : Linear.laneDot vectors.flatten vectors'.flatten
      ≤ ofVectors vectors .two * (ofVectors vectors' .two : K) := by
    refine le_of_abs_le (abs_le_of_sq_le_sq ?_ (mul_nonneg htwo htwo'))
    rw [mul_pow, ofVectors_two_sq hroots, ofVectors_two_sq hroots]
    exact sq_laneDot_le _ _
  -- The squares differ by twice the product of the norms less the dot product.
  refine le_of_sq_le_sq ?_ (add_nonneg htwo htwo')
  rw [ofVectors_two_sq hroots, flatten_sumOfVectors hshape, sum_sq_add hlength, add_sq,
    ofVectors_two_sq hroots, ofVectors_two_sq hroots]
  linarith

end

/-! ### All of it -/

/-- What holds of the three norms of a list of vectors. -/
structure Laws (vectors : List (List K)) : Prop where
  /-- The vectors may be stacked into one. -/
  stacked : ∀ norm : Norm, (norm.ofVectors vectors : K) = norm.ofVectors [vectors.flatten]
  /-- The entries may be divided into other vectors, and come in another
  order. -/
  regrouped : ∀ (norm : Norm) (vectors' : List (List K)), vectors.flatten.Perm vectors'.flatten →
    (norm.ofVectors vectors : K) = norm.ofVectors vectors'
  max_le_two : (ofVectors vectors .max : K) ≤ ofVectors vectors .two
  two_le_one : (ofVectors vectors .two : K) ≤ ofVectors vectors .one
  two_sq_le : (ofVectors vectors .two : K) ^ 2
    ≤ vectors.flatten.length * (ofVectors vectors .max : K) ^ 2
  one_sq_le : (ofVectors vectors .one : K) ^ 2
    ≤ vectors.flatten.length * (ofVectors vectors .two : K) ^ 2
  one_le : (ofVectors vectors .one : K) ≤ vectors.flatten.length * ofVectors vectors .max
  scaled : ∀ (norm : Norm) (c : K),
    (norm.ofVectors (scaledVectors c vectors) : K) = |c| * norm.ofVectors vectors
  /-- The triangle inequality, for vectors of the same sizes. -/
  add_le : ∀ (norm : Norm) (vectors' : List (List K)),
    vectors.map List.length = vectors'.map List.length →
    (norm.ofVectors (sumOfVectors vectors vectors') : K)
      ≤ norm.ofVectors vectors + norm.ofVectors vectors'
  eq_zero_iff : ∀ norm : Norm,
    norm.ofVectors vectors = (0 : K) ↔ ∀ entry ∈ vectors.flatten, entry = 0

/-- All of it holds of all lists of vectors. -/
theorem laws (hroots : HasRoots K) (vectors : List (List K)) : Laws vectors where
  stacked norm := ofVectors_perm norm (by simp)
  regrouped norm _ h := ofVectors_perm norm h
  max_le_two := ofVectors_max_le_two hroots vectors
  two_le_one := ofVectors_two_le_one hroots vectors
  two_sq_le := ofVectors_two_sq_le_max hroots vectors
  one_sq_le := ofVectors_one_sq_le hroots vectors
  one_le := ofVectors_one_le vectors
  scaled norm c := ofVectors_scaledVectors hroots norm c vectors
  add_le norm vectors' hshape := by
    cases norm with
    | one => exact ofVectors_one_add_le hshape
    | two => exact ofVectors_two_add_le hshape hroots
    | max => exact ofVectors_max_add_le hshape
  eq_zero_iff norm := ofVectors_eq_zero_iff hroots norm

end Norm

end InteriorPoint
