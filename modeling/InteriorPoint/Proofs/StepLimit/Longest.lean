import Mathlib.Order.Bounds.Defs
import Mathlib.Tactic.NormNum
import InteriorPoint.Proofs.Scalar.Real
import InteriorPoint.Proofs.StepLimit

/-!
# `InteriorPoint.Proofs.StepLimit.Longest`: the limit is the longest admissible step

In exact arithmetic the fraction-to-the-boundary rule gives the greatest of
the lengths in `[0, 1]` after which every entry keeps the fraction
`1 - tau`, provided that all entries are positive, and a limit below one is
the length at which some entry keeps no more than that
(`StepLimit.fractionToBoundary_longest`).

All of it is read off one equivalence: a positive length is at most the
limit if it is at most one and no entry that moves towards zero forbids it
(`le_limit_iff`). For a positive entry, not to be forbidden is to keep the
fraction (`keeps_iff_of_neg`). More entries forbid more (`limit_anti`), which
says at once that appending entries lowers the limit and that entries which
do not move towards zero are of no account. A larger fraction forbids less
(`limit_mono`).
-/

set_option autoImplicit false

namespace InteriorPoint.StepLimit

variable {K : Type} [Field K] [LinearOrder K] [ExactFunctions K] {tau : K}

/-- The lengths in `[0, 1]` after which every entry keeps the fraction
`1 - tau` of what it was. -/
def admissible (tau : K) (values delta : List K) : Set K :=
  {a | 0 ≤ a ∧ a ≤ 1 ∧ ∀ entry ∈ List.zip values delta,
    (1 - tau) * entry.1 ≤ entry.1 + a * entry.2}

/-- The minimum is attained. -/
theorem foldl_restrict_eq_or (entries : List (K × K)) (start : K) :
    entries.foldl (fun alpha entry => restrict tau alpha entry.1 entry.2) start = start
      ∨ ∃ entry ∈ entries, entry.2 < 0
        ∧ entries.foldl (fun alpha entry => restrict tau alpha entry.1 entry.2) start
          = -tau * entry.1 / entry.2 := by
  induction entries generalizing start with
  | nil => exact Or.inl rfl
  | cons first entries ih =>
      rw [List.foldl_cons]
      rcases ih (restrict tau start first.1 first.2) with hstart | ⟨entry, hmem, hstep, hentry⟩
      · -- The rest does not lower the limit that the first entry left.
        rw [hstart, restrict]
        split
        · rename_i hstep
          rw [Scalar.min_eq]
          rcases min_choice start (-tau * first.1 / first.2) with hmin | hmin
          · exact Or.inl hmin
          · exact Or.inr ⟨first, List.mem_cons_self, hstep, hmin⟩
        · exact Or.inl rfl
      · exact Or.inr ⟨entry, List.mem_cons_of_mem _ hmem, hstep, hentry⟩

variable {values delta : List K}

/-! ### What raises and lowers the limit -/

/-- A length that is not negative is at most the limit if no entry forbids
it. Only of a positive length this has to be shown. -/
theorem le_limit_of_pos {c : K} (hc : 0 ≤ c) (h : 0 < c → c ≤ 1
      ∧ ∀ entry ∈ List.zip values delta, entry.2 < 0 → c ≤ -tau * entry.1 / entry.2) :
    c ≤ limit tau values delta := by
  rcases hc.eq_or_lt with rfl | hpos
  · exact limit_nonneg _ _
  · exact (le_limit_iff hpos).2 (h hpos)

/-- More entries that move towards zero forbid more. -/
theorem limit_anti {values' delta' : List K}
    (h : ∀ entry ∈ List.zip values delta, entry.2 < 0 → entry ∈ List.zip values' delta') :
    limit tau values' delta' ≤ limit tau values delta := by
  refine le_limit_of_pos (limit_nonneg _ _) fun hpos => ?_
  obtain ⟨hone, hentries⟩ := (le_limit_iff hpos).1 (le_refl _)
  exact ⟨hone, fun entry hmem hstep => hentries entry (h entry hmem hstep) hstep⟩

variable [IsStrictOrderedRing K]

/-- An entry that allows a positive length is positive. -/
theorem pos_of_allowed_pos (htau : 0 < tau) {value step : K} (hstep : step < 0)
    (h : 0 < -tau * value / step) : 0 < value := by
  rw [lt_div_iff_of_neg hstep] at h
  have hproduct : 0 < tau * value := by linarith
  exact (mul_pos_iff_of_pos_left htau).1 hproduct

/-- A larger fraction forbids less. -/
theorem limit_mono {tau' : K} (htau' : 0 < tau') (hle : tau' ≤ tau) (values delta : List K) :
    limit tau' values delta ≤ limit tau values delta := by
  refine le_limit_of_pos (limit_nonneg _ _) fun hpos => ?_
  obtain ⟨hone, hentries⟩ := (le_limit_iff hpos).1 (le_refl _)
  refine ⟨hone, fun entry hmem hstep => ?_⟩
  have hallowed := hentries entry hmem hstep
  have hvalue := pos_of_allowed_pos htau' hstep (hpos.trans_le hallowed)
  -- Of a positive entry, more may be used up.
  have hpart := mul_le_mul_of_nonneg_right hle hvalue.le
  rw [le_div_iff_of_neg hstep] at hallowed ⊢
  linarith

/-- An entry that is not positive and moves down allows no step at all. -/
theorem limit_eq_zero (htau : 0 < tau) {entry : K × K} (hmem : entry ∈ List.zip values delta)
    (hvalue : entry.1 ≤ 0) (hstep : entry.2 < 0) : limit tau values delta = 0 := by
  have hnonneg : 0 ≤ limit tau values delta := limit_nonneg _ _
  rcases hnonneg.eq_or_lt with hzero | hpos
  · exact hzero.symm
  · have hallowed := ((le_limit_iff hpos).1 (le_refl _)).2 entry hmem hstep
    exact absurd (pos_of_allowed_pos htau hstep (hpos.trans_le hallowed)) (not_lt.2 hvalue)

/-! ### Positive entries -/

/-- The length is the greatest that is admissible, and if it is below one,
some entry keeps no more than its fraction. -/
structure IsLongest (tau : K) (values delta : List K) (alpha : K) : Prop where
  isGreatest : IsGreatest (admissible tau values delta) alpha
  tight : alpha < 1 → ∃ entry ∈ List.zip values delta,
    entry.2 < 0 ∧ entry.1 + alpha * entry.2 = (1 - tau) * entry.1

/-- For positive entries the limit is the longest admissible length. -/
theorem limit_isLongest (htau : 0 < tau) (hvalues : ∀ value ∈ values, 0 < value) :
    IsLongest tau values delta (limit tau values delta) := by
  have hpositive : ∀ entry ∈ List.zip values delta, 0 ≤ entry.1 := by
    intro entry hmem
    exact (hvalues _ (List.of_mem_zip hmem).1).le
  obtain ⟨hnonneg, hone, hsuits⟩ := limit_admits htau.le values delta
  refine ⟨⟨⟨hnonneg, hone, fun entry hmem => ?_⟩, ?_⟩, ?_⟩
  · exact hsuits _ hnonneg (le_refl _) entry hmem (hpositive entry hmem)
  · -- No admissible length is greater.
    rintro a ⟨ha, haOne, hkeeps⟩
    exact le_limit_of_pos ha fun _ =>
      ⟨haOne, fun entry hmem hstep => (keeps_iff_of_neg hstep).1 (hkeeps entry hmem)⟩
  · intro hlt
    rw [limit_eq] at hlt ⊢
    -- A limit below one is what one of the entries allows.
    rcases foldl_restrict_eq_or (List.zip values delta) 1 with hstart | ⟨entry, hmem, hstep, hmin⟩
    · rw [hstart, max_eq_left zero_le_one] at hlt
      exact absurd hlt (lt_irrefl 1)
    · rw [hmin, max_eq_left (allowed_nonneg htau.le (hpositive entry hmem) hstep)]
      refine ⟨entry, hmem, hstep, ?_⟩
      rw [div_mul_cancel₀ _ hstep.ne]
      ring

/-! ### The rule -/

/-- The fraction-to-the-boundary rule for a fraction `tau`. Its limit lies
in `[0, 1]`. For positive entries it is the longest admissible step. A
smaller fraction gives no longer step, and neither do more entries. An entry
that is not positive and moves towards or beyond zero forbids every step,
and the entries that do not move down are of no account. -/
theorem fractionToBoundary_longest (htau : 0 < tau) (hlength : values.length = delta.length) :
    ∃ alpha, fractionToBoundary tau values delta = .ok alpha
      ∧ (0 ≤ alpha ∧ alpha ≤ 1)
      ∧ ((∀ value ∈ values, 0 < value) → IsLongest tau values delta alpha)
      ∧ (∀ tau', 0 < tau' → tau' ≤ tau →
        ∃ alpha', fractionToBoundary tau' values delta = .ok alpha' ∧ alpha' ≤ alpha)
      ∧ (∀ more moreDelta, more.length = moreDelta.length →
        ∃ alpha', fractionToBoundary tau (values ++ more) (delta ++ moreDelta) = .ok alpha'
          ∧ alpha' ≤ alpha)
      ∧ ((∃ entry ∈ List.zip values delta, entry.1 ≤ 0 ∧ entry.2 < 0) → alpha = 0)
      ∧ ∀ values' delta', values'.length = delta'.length →
        (∀ entry : K × K, entry.2 < 0 →
          (entry ∈ List.zip values' delta' ↔ entry ∈ List.zip values delta)) →
        fractionToBoundary tau values' delta' = .ok alpha := by
  refine ⟨_, fractionToBoundary_eq_limit hlength,
    ⟨limit_nonneg _ _, limit_le_one zero_le_one _ _⟩, limit_isLongest htau, ?_, ?_, ?_, ?_⟩
  · intro tau' htau' hle
    exact ⟨_, fractionToBoundary_eq_limit hlength, limit_mono htau' hle _ _⟩
  · intro more moreDelta hmore
    have happend : (values ++ more).length = (delta ++ moreDelta).length := by
      simp [hlength, hmore]
    refine ⟨_, fractionToBoundary_eq_limit happend, limit_anti fun entry hmem _ => ?_⟩
    rw [List.zip_append hlength]
    exact List.mem_append_left _ hmem
  · rintro ⟨entry, hmem, hvalue, hstep⟩
    exact limit_eq_zero htau hmem hvalue hstep
  · -- Either pair of vectors forbids what the other forbids.
    intro values' delta' hlength' hsame
    rw [fractionToBoundary_eq_limit hlength']
    refine congrArg _ (le_antisymm ?_ ?_)
    · exact limit_anti fun entry hmem hstep => (hsame entry hstep).2 hmem
    · exact limit_anti fun entry hmem hstep => (hsame entry hstep).1 hmem

/-- The first of three entries blocks the step, and the third one moves away
from zero. -/
theorem fractionToBoundary_longest_blocked :
    (0 : ℝ) < 99 / 100 ∧ ([1, 2, 1 / 2] : List ℝ).length = ([-4, -1, 3] : List ℝ).length
      ∧ fractionToBoundary (99 / 100 : ℝ) [1, 2, 1 / 2] [-4, -1, 3] = .ok (99 / 400)
      ∧ IsLongest (99 / 100 : ℝ) [1, 2, 1 / 2] [-4, -1, 3] (99 / 400) := by
  have htau : (0 : ℝ) < 99 / 100 := by norm_num
  have hlength : ([1, 2, 1 / 2] : List ℝ).length = ([-4, -1, 3] : List ℝ).length := rfl
  obtain ⟨alpha, hok, -, hlongest, -⟩ := fractionToBoundary_longest htau hlength
  have hvalues : ∀ value ∈ ([1, 2, 1 / 2] : List ℝ), 0 < value := by norm_num
  have h := hlongest hvalues
  have hle : (99 / 400 : ℝ) ≤ alpha := h.isGreatest.2 ⟨by norm_num, by norm_num, by norm_num⟩
  -- The first entry may fall from one to a hundredth, and falls four times as fast as the step.
  have hge : alpha ≤ 99 / 400 := by
    have hkeeps := h.isGreatest.1.2.2 (1, -4) (by simp)
    norm_num at hkeeps
    linarith
  rw [le_antisymm hge hle] at hok h
  exact ⟨htau, hlength, hok, h⟩

end InteriorPoint.StepLimit
