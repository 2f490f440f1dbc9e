import Mathlib.Algebra.Order.BigOperators.Group.Multiset
import Mathlib.Algebra.Order.Field.Basic
import Mathlib.Order.Bounds.Basic
import InteriorPoint.Optimality
import InteriorPoint.Proofs.Scalar.Exact

/-!
# `InteriorPoint.Proofs.Centrality`: what the centrality measures

In exact arithmetic the centrality of some products is the least one
relative to their mean, if the least one is positive, and zero otherwise
(`centrality_eq`). The mean needs no case of its own, and the upper end of
the clamp changes nothing, because the least product is at most the mean
(`le_mean`).

`Centering` collects what this says of a mean and a centrality. It speaks
of the multiset of the products only, and it leaves no choice
(`Centering.unique`). So it is of no account how the products are
distributed among the families.
-/

set_option autoImplicit false

namespace InteriorPoint

/-- All entries of several vectors, each as often as it occurs. -/
def allEntries {K : Type} (vectors : List (List K)) : Multiset K :=
  vectors.flatten

/-- There are no entries if the vectors in a row are empty. -/
theorem allEntries_eq_zero {K : Type} {vectors : List (List K)} :
    allEntries vectors = 0 ↔ vectors.flatten = [] :=
  Multiset.coe_eq_zero _

variable {K : Type} [Field K]

/-! ### The mean -/

/-- The mean of the entries. -/
def mean (entries : Multiset K) : K :=
  entries.sum / entries.card

/-- Without entries the mean is zero. -/
theorem mean_zero : mean (0 : Multiset K) = 0 := by
  rw [mean, Multiset.sum_zero, zero_div]

variable [LinearOrder K]

section
variable [IsStrictOrderedRing K] {entries : Multiset K} {least : K}

/-- With an entry there is something to divide by. -/
theorem card_pos_of_mem {p : K} (hmem : p ∈ entries) : (0 : K) < entries.card :=
  Nat.cast_pos.2 (Multiset.card_pos_iff_exists_mem.2 ⟨p, hmem⟩)

/-- The least entry is at most the mean. -/
theorem le_mean (h : IsLeast {p | p ∈ entries} least) : least ≤ mean entries := by
  rw [mean, le_div_iff₀ (card_pos_of_mem h.1), mul_comm, ← nsmul_eq_mul]
  exact Multiset.card_nsmul_le_sum fun p hmem => h.2 hmem

/-- Entries that are all the same are their own mean. -/
theorem mean_eq_of_forall {a : K} (hne : entries ≠ 0) (h : ∀ p ∈ entries, p = a) :
    mean entries = a := by
  obtain ⟨p, hmem⟩ := Multiset.exists_mem_of_ne_zero hne
  have hcard := card_pos_of_mem hmem
  rw [mean, div_eq_iff hcard.ne', Multiset.eq_replicate_card.2 h]
  simp [mul_comm]

/-- And if the least entry is the mean, the entries are all the same. -/
theorem eq_of_le_mean (h : IsLeast {p | p ∈ entries} least) (hmean : mean entries ≤ least) {p : K}
    (hmem : p ∈ entries) : p = least := by
  refine le_antisymm (not_lt.1 fun hlt => ?_) (h.2 hmem)
  -- One entry above the others would lift the sum above its lower bound.
  have hsum : (entries.map fun _ => least).sum < (entries.map id).sum :=
    Multiset.sum_lt_sum (fun q hq => h.2 hq) ⟨p, hmem, hlt⟩
  rw [mean, div_le_iff₀ (card_pos_of_mem h.1)] at hmean
  simp only [Multiset.map_const', Multiset.sum_replicate, nsmul_eq_mul, Multiset.map_id] at hsum
  rw [mul_comm] at hmean
  exact absurd hsum (not_lt.2 hmean)

end

/-! ### Mean and centrality -/

/-- What a mean and a centrality say of the products. -/
structure Centering (products : Multiset K) (average centrality : K) : Prop where
  average_of_empty : products = 0 → average = 0
  average_eq : products ≠ 0 → average = products.sum / products.card
  nonneg : 0 ≤ centrality
  le_one : centrality ≤ 1
  of_empty : products = 0 → centrality = 1
  eq_zero : products ≠ 0 → (average ≤ 0 ∨ ∃ p ∈ products, p ≤ 0) → centrality = 0
  /-- Of positive products the measure is the least one, relative to the
  average. -/
  isLeast : products ≠ 0 → 0 < average → (∀ p ∈ products, 0 < p) →
    IsLeast {p | p ∈ products} (centrality * average)
  eq_one_iff : products ≠ 0 → (centrality = 1 ↔ ∃ a, 0 < a ∧ ∀ p ∈ products, p = a)
  mul_average_le : 0 < centrality → ∀ p ∈ products, centrality * average ≤ p

/-- Without products the mean is zero and the centrality one. -/
theorem Centering.empty [IsStrictOrderedRing K] : Centering (0 : Multiset K) 0 1 where
  average_of_empty _ := rfl
  average_eq h := absurd rfl h
  nonneg := zero_le_one
  le_one := le_refl _
  of_empty _ := rfl
  eq_zero h := absurd rfl h
  isLeast h := absurd rfl h
  eq_one_iff h := absurd rfl h
  mul_average_le _ _ hmem := absurd hmem (Multiset.notMem_zero _)

section
variable [IsStrictOrderedRing K] {products : Multiset K} {least : K}
  (h : IsLeast {p | p ∈ products} least)
include h

omit [Field K] [IsStrictOrderedRing K] in
/-- A least entry is an entry. -/
theorem ne_zero_of_isLeast : products ≠ 0 := by
  rintro rfl
  exact Multiset.notMem_zero _ h.1

/-- Of positive products the least one relative to the mean. -/
theorem Centering.of_pos (hpos : 0 < least) :
    Centering products (mean products) (least / mean products) := by
  have hne := ne_zero_of_isLeast h
  have hle := le_mean h
  have hmean : 0 < mean products := hpos.trans_le hle
  refine
    { average_of_empty := fun hempty => absurd hempty hne
      average_eq := fun _ => rfl
      nonneg := div_nonneg hpos.le hmean.le
      le_one := (div_le_one hmean).2 hle
      of_empty := fun hempty => absurd hempty hne
      eq_zero := fun _ hnot => ?eq_zero
      isLeast := fun _ _ _ => ?isLeast
      eq_one_iff := fun _ => ?eq_one_iff
      mul_average_le := fun _ p hmem => ?mul_average_le }
  -- Neither reason for zero can be given.
  case eq_zero =>
    rcases hnot with hneg | ⟨p, hmem, hp⟩
    · exact absurd hmean (not_lt.2 hneg)
    · exact absurd (hpos.trans_le (h.2 hmem)) (not_lt.2 hp)
  case isLeast =>
    rw [div_mul_cancel₀ _ hmean.ne']
    exact h
  -- The ratio is one if the least product is the mean.
  case eq_one_iff =>
    rw [div_eq_one_iff_eq hmean.ne']
    constructor
    · intro hsame
      exact ⟨least, hpos, fun p hmem => eq_of_le_mean h hsame.ge hmem⟩
    · rintro ⟨a, -, hsame⟩
      rw [mean_eq_of_forall hne hsame, hsame _ h.1]
  case mul_average_le =>
    rw [div_mul_cancel₀ _ hmean.ne']
    exact h.2 hmem

/-- A product that is not positive makes it zero. -/
theorem Centering.of_nonpos (hneg : least ≤ 0) : Centering products (mean products) 0 := by
  have hne := ne_zero_of_isLeast h
  refine
    { average_of_empty := fun hempty => absurd hempty hne
      average_eq := fun _ => rfl
      nonneg := le_refl _
      le_one := zero_le_one
      of_empty := fun hempty => absurd hempty hne
      eq_zero := fun _ _ => rfl
      isLeast := fun _ _ hpos => absurd (hpos _ h.1) (not_lt.2 hneg)
      eq_one_iff := fun _ => ?eq_one_iff
      mul_average_le := fun hpos => absurd hpos (lt_irrefl 0) }
  case eq_one_iff =>
    constructor
    · intro hone
      exact absurd hone zero_ne_one
    · rintro ⟨a, ha, hsame⟩
      rw [hsame _ h.1] at hneg
      exact absurd ha (not_lt.2 hneg)

end

/-- The products determine both numbers. -/
theorem Centering.unique {products : Multiset K} {average average' centrality centrality' : K}
    (h : Centering products average centrality) (h' : Centering products average' centrality') :
    average = average' ∧ centrality = centrality' := by
  by_cases hempty : products = 0
  · rw [h.average_of_empty hempty, h'.average_of_empty hempty, h.of_empty hempty,
      h'.of_empty hempty]
    exact ⟨rfl, rfl⟩
  · have haverage : average = average' := (h.average_eq hempty).trans (h'.average_eq hempty).symm
    subst haverage
    refine ⟨rfl, ?_⟩
    by_cases hpositive : 0 < average ∧ ∀ p ∈ products, 0 < p
    · -- Both are the least product, relative to the same average.
      have hleast := h.isLeast hempty hpositive.1 hpositive.2
      have hleast' := h'.isLeast hempty hpositive.1 hpositive.2
      exact mul_right_cancel₀ hpositive.1.ne' (hleast.unique hleast')
    · have hnot : average ≤ 0 ∨ ∃ p ∈ products, p ≤ 0 := by
        by_contra hall
        push Not at hall
        exact hpositive hall
      rw [h.eq_zero hempty hnot, h'.eq_zero hempty hnot]

variable [ExactFunctions K]

/-- To sum the sums of the vectors is to sum all entries. -/
theorem sum_sum (vectors : List (List K)) :
    Scalar.sum (vectors.map Scalar.sum) = (allEntries vectors).sum := by
  have hsum : vectors.map Scalar.sum = vectors.map List.sum :=
    List.map_congr_left fun entries _ => Scalar.sum_eq entries
  rw [Scalar.sum_eq, hsum, allEntries, Multiset.sum_coe, List.sum_flatten]

/-- The smallest entry is one of the entries, and at most each of them. -/
theorem isLeast_smallest (entry : K) (rest : List K) :
    IsLeast {p | p ∈ entry :: rest} (rest.foldl Scalar.min entry) := by
  induction rest generalizing entry with
  | nil => simp [isLeast_singleton]
  | cons next rest ih =>
      -- The rest starts from the smaller one of the first two.
      obtain ⟨hmem, hlower⟩ := ih (Scalar.min entry next)
      rw [Scalar.min_eq] at hmem hlower
      rw [List.foldl_cons, Scalar.min_eq]
      constructor
      · rcases List.mem_cons.1 hmem with hmin | hrest
        · rcases min_choice entry next with hentry | hnext
          · exact List.mem_cons.2 (Or.inl (hmin.trans hentry))
          · exact List.mem_cons_of_mem _ (List.mem_cons.2 (Or.inl (hmin.trans hnext)))
        · exact List.mem_cons_of_mem _ (List.mem_cons_of_mem _ hrest)
      · have hmin := hlower List.mem_cons_self
        rintro p hp
        rcases List.mem_cons.1 hp with rfl | hp
        · exact hmin.trans (min_le_left _ _)
        · rcases List.mem_cons.1 hp with rfl | hp
          · exact hmin.trans (min_le_right _ _)
          · exact hlower (List.mem_cons_of_mem _ hp)

/-- Without products the centrality is one. -/
theorem centrality_of_empty {vectors : List (List K)} (h : allEntries vectors = 0) :
    centrality vectors = 1 := by
  rw [centrality, allEntries_eq_zero.1 h]
  rfl

/-- Of a ratio that is at most one, only the sign is left to look at. -/
theorem clamp_unit {a : K} (ha : a ≤ 1) : Scalar.clamp 0 1 a = max 0 a := by
  unfold Scalar.clamp
  split
  · rename_i hneg
    exact (max_eq_left hneg.le).symm
  · rename_i hneg
    rw [if_neg (not_lt.2 ha), max_eq_right (not_lt.1 hneg)]

variable [IsStrictOrderedRing K]

/-- The centrality is the least product relative to the mean, if that
product is positive, and zero otherwise. -/
theorem centrality_eq {vectors : List (List K)} (hne : allEntries vectors ≠ 0) :
    ∃ least, IsLeast {p | p ∈ allEntries vectors} least
      ∧ centrality vectors = if 0 < least then least / mean (allEntries vectors) else 0 := by
  obtain ⟨entry, rest, hcons⟩ := List.exists_cons_of_ne_nil fun h => hne (allEntries_eq_zero.2 h)
  have hentries : allEntries vectors = ((entry :: rest : List K) : Multiset K) :=
    congrArg _ hcons
  have hleast : IsLeast {p | p ∈ allEntries vectors} (rest.foldl Scalar.min entry) := by
    rw [hentries]
    exact isLeast_smallest entry rest
  have hmean : Scalar.sum (vectors.map Scalar.sum) / ((entry :: rest).length : K)
      = mean (allEntries vectors) := by
    rw [sum_sum, mean, hentries, Multiset.coe_card]
  have hle := le_mean hleast
  refine ⟨_, hleast, ?_⟩
  simp only [centrality, hcons, smallest, hmean]
  -- The least product is at most the mean, so its sign decides.
  by_cases hpos : 0 < mean (allEntries vectors)
  · -- Clamping from above does nothing, and from below it replaces a negative ratio.
    rw [if_neg (not_le.2 hpos), clamp_unit ((div_le_one hpos).2 hle)]
    split
    · rename_i hleastPos
      exact max_eq_right (div_nonneg hleastPos.le hpos.le)
    · rename_i hleastNeg
      exact max_eq_left (div_nonpos_of_nonpos_of_nonneg (not_lt.1 hleastNeg) hpos.le)
  · rw [if_pos (not_lt.1 hpos), if_neg fun hleastPos => hpos (hleastPos.trans_le hle)]

/-- The centrality of the entries of several vectors, with their mean. -/
theorem centering (vectors : List (List K)) :
    Centering (allEntries vectors) (mean (allEntries vectors)) (centrality vectors) := by
  by_cases hempty : allEntries vectors = 0
  · have hone := centrality_of_empty hempty
    rw [hone, hempty, mean_zero]
    exact .empty
  · obtain ⟨least, hleast, heq⟩ := centrality_eq hempty
    -- The sign of the least product selects the case.
    rw [heq]
    split
    · rename_i hpos
      exact .of_pos hleast hpos
    · rename_i hneg
      exact .of_nonpos hleast (not_lt.1 hneg)

end InteriorPoint
