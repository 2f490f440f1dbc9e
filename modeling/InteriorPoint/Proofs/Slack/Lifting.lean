import Mathlib.Tactic.NormNum
import InteriorPoint.Proofs.Linear.Fitting
import InteriorPoint.Proofs.Scalar.Real
import InteriorPoint.Proofs.Slack

/-!
# `InteriorPoint.Proofs.Slack.Lifting`: how far a collapsed slack is lifted

In exact arithmetic a slack that lies below `Slack.least` is lifted by the
smaller of two limits, but never to less than `least`. One limit is how far
the bound may move, the other the slack that would put the pair on the
central path. Either may lie below `least`, and only a positive multiplier
gives the second one (`Slack.lift_eq`, `Slack.lifts_lift`).

The order of the maxima and minima in `Slack.lift` is not the order above.
They agree because a maximum with `least` distributes over the minimum.

`Slack.safeguard_lifts` says this of whole vectors. What comes out has no
collapsed entry, so a second correction finds nothing to do.
-/

set_option autoImplicit false

namespace InteriorPoint.Slack

section
variable {α : Type} [Scalar α] [LawfulComparison α]

/-- A corrected slack is no smaller than `least`. -/
theorem least_le_corrected (mu move slack : α) (pair : α × α) :
    least mu ≤ corrected mu move slack pair := by
  unfold corrected
  split
  · assumption
  · exact least_le_lift _ _ _ _ _

/-- The slacks that change are those that have collapsed. -/
theorem corrected_eq_self_iff {mu move slack : α} {pair : α × α} :
    corrected mu move slack pair = slack ↔ least mu ≤ slack := by
  constructor
  · intro hsame
    rw [← hsame]
    exact least_le_corrected mu move slack pair
  · intro hlarge
    rw [corrected, if_pos hlarge]

/-- So the entries that change are as many as those that have collapsed. -/
theorem countP_changed (mu move : α) {slacks : List α} {pairs : List (α × α)}
    (hlength : slacks.length = pairs.length) :
    (List.zip slacks (List.zipWith (corrected mu move) slacks pairs)).countP
        (fun pair => pair.2 ≠ pair.1)
      = slacks.countP fun slack => ¬ least mu ≤ slack := by
  induction slacks generalizing pairs with
  | nil => rfl
  | cons slack slacks ih =>
      cases pairs with
      | nil => cases hlength
      | cons pair pairs =>
          -- Whether an entry changed is decided for each by itself.
          simp only [List.zipWith_cons_cons, List.zip_cons_cons, List.countP_cons,
            ih (Nat.succ.inj hlength), ne_eq, corrected_eq_self_iff]

end

variable {K : Type} [Field K] [LinearOrder K] [ExactFunctions K] [IsStrictOrderedRing K]

/-- What a collapsed slack is lifted to, with the bound and the multiplier
of its pair. -/
structure Lifts (mu move slack bound multiplier lifted : K) : Prop where
  least_le : least mu ≤ lifted
  lt : slack < lifted
  /-- The bound moves by at most the fraction `move` of its magnitude. -/
  le_cap : lifted ≤ max (least mu) (slack + move * max 1 |bound|)
  /-- The pair does not move beyond the central path. -/
  le_central : 0 < multiplier → lifted ≤ max (least mu) (mu / multiplier)
  eq_least : multiplier ≤ 0 → lifted = least mu
  eq_max_min : lifted = max (least mu)
    (min (max (least mu) (slack + move * max 1 |bound|))
      (if 0 < multiplier then max (least mu) (mu / multiplier) else least mu))

omit [IsStrictOrderedRing K] in
/-- The slack on the central path, where the multiplier is positive. -/
theorem central_eq (mu multiplier : K) :
    central mu multiplier
      = if 0 < multiplier then max (least mu) (mu / multiplier) else least mu := by
  rw [central, Scalar.max_eq, max_comm]

/-- The larger of `least` and the smaller of the two limits. -/
theorem lift_eq (mu move slack bound multiplier : K) :
    lift mu move slack bound multiplier = max (least mu)
      (min (max (least mu) (slack + move * max 1 |bound|)) (central mu multiplier)) := by
  rw [lift, cap, Scalar.max_eq, Scalar.max_eq, Scalar.min_eq, Scalar.abs_eq, max_comm |bound| 1,
    max_comm _ (least mu), min_comm, max_min_distrib_left, max_min_distrib_left, ← max_assoc,
    max_self]

/-- Lifting a collapsed slack does what `Lifts` says. -/
theorem lifts_lift {mu move slack : K} (hsmall : slack < least mu) (bound multiplier : K) :
    Lifts mu move slack bound multiplier (lift mu move slack bound multiplier) := by
  have hleast := least_le_lift mu move slack bound multiplier
  have hlift := lift_eq mu move slack bound multiplier
  rw [central_eq] at hlift
  -- The two limits bound the minimum, and neither lies below `least`.
  refine ⟨hleast, hsmall.trans_le hleast, ?_, ?_, ?_, hlift⟩
  · rw [hlift]
    exact max_le (le_max_left _ _) (min_le_left _ _)
  · intro hpos
    rw [hlift, if_pos hpos]
    exact max_le (le_max_left _ _) (min_le_right _ _)
  · intro hneg
    rw [hlift, if_neg (not_lt.2 hneg)]
    exact max_eq_left (min_le_right _ _)

/-- With one bound and one multiplier for each slack the correction goes
through. A slack that is at least `least mu` stays as it is, and every
other one is lifted. The count is the number of entries that changed. If
the result is corrected again, nothing changes.

This holds whatever the signs of `mu` and `move` are. -/
theorem safeguard_lifts (mu move : K) {slacks bounds multipliers : List K}
    (hbounds : slacks.length = bounds.length) (hmultipliers : slacks.length = multipliers.length) :
    ∃ entries count, safeguard mu move slacks bounds multipliers = .ok (entries, count)
      ∧ entries.length = slacks.length
      ∧ (∀ n, n < slacks.length →
        (least mu ≤ slacks.getD n 0 → entries.getD n 0 = slacks.getD n 0)
          ∧ (slacks.getD n 0 < least mu →
            Lifts mu move (slacks.getD n 0) (bounds.getD n 0) (multipliers.getD n 0)
              (entries.getD n 0)))
      ∧ count = (List.zip slacks entries).countP (fun pair => pair.2 ≠ pair.1)
      ∧ safeguard mu move entries bounds multipliers = .ok (entries, 0) := by
  have hpairs : slacks.length = (List.zip bounds multipliers).length := by
    rw [List.length_zip]
    omega
  have hlength : (List.zipWith (corrected mu move) slacks (List.zip bounds multipliers)).length
      = slacks.length := by
    rw [List.length_zipWith, ← hpairs, Nat.min_self]
  -- Where the entries come from, by position.
  have hentry : ∀ n, n < slacks.length →
      (List.zipWith (corrected mu move) slacks (List.zip bounds multipliers)).getD n 0
        = corrected mu move (slacks.getD n 0) (bounds.getD n 0, multipliers.getD n 0) := by
    intro n hn
    have hbound : n < bounds.length := hbounds ▸ hn
    have hmultiplier : n < multipliers.length := hmultipliers ▸ hn
    simp [hn, hbound, hmultiplier]
  refine ⟨_, _, safeguard_eq_zipWith mu move hbounds hmultipliers, hlength, ?_, ?_, ?_⟩
  · intro n hn
    rw [hentry n hn]
    refine ⟨corrected_eq_self_iff.2, fun hsmall => ?_⟩
    rw [corrected, if_neg (not_le.2 hsmall)]
    exact lifts_lift hsmall _ _
  · exact (countP_changed mu move hpairs).symm
  · refine safeguard_of_least_le move (fun entry hmem => ?_) bounds multipliers
    obtain ⟨n, hn, rfl⟩ := List.mem_iff_getElem.1 hmem
    rw [List.getElem_zipWith]
    exact least_le_corrected _ _ _ _

/-- Three slacks of which two have collapsed. One is lifted onto the central
path, since its bound may move further than that, and the other, which has
no positive multiplier, to the least slack. -/
theorem safeguard_lifts_threeSlacks :
    ([2, -1, -1] : List ℝ).length = ([0, -4, 0] : List ℝ).length
      ∧ ([2, -1, -1] : List ℝ).length = ([1, 2, 0] : List ℝ).length
      ∧ ∃ entries, safeguard (1 : ℝ) 1 [2, -1, -1] [0, -4, 0] [1, 2, 0] = .ok (entries, 2)
        ∧ entries = [2, 1 / 2, least 1]
        ∧ safeguard (1 : ℝ) 1 entries [0, -4, 0] [1, 2, 0] = .ok (entries, 0) := by
  have hleast : least (1 : ℝ) = (2 : ℝ)⁻¹ ^ 52 := by
    have hpos : (0 : ℝ) < (2 : ℝ)⁻¹ ^ 52 * 1 := by norm_num
    unfold least
    rw [Scalar.min_eq, min_self]
    exact (if_pos hpos).trans (mul_one _)
  have hbounds : ([2, -1, -1] : List ℝ).length = ([0, -4, 0] : List ℝ).length := rfl
  have hmultipliers : ([2, -1, -1] : List ℝ).length = ([1, 2, 0] : List ℝ).length := rfl
  obtain ⟨entries, count, hok, hlength, hentries, hcount, hagain⟩ :=
    safeguard_lifts (1 : ℝ) 1 hbounds hmultipliers
  have hlarge : least (1 : ℝ) ≤ 2 := by norm_num [hleast]
  have hsmall : -1 < least (1 : ℝ) := by norm_num [hleast]
  have hfirst : entries.getD 0 0 = 2 := (hentries 0 (by decide)).1 hlarge
  have hsecond : entries.getD 1 0 = 1 / 2 := by
    have hlifted := ((hentries 1 (by decide)).2 hsmall).eq_max_min
    norm_num [hleast] at hlifted
    simpa using hlifted
  have hthird : entries.getD 2 0 = least 1 :=
    ((hentries 2 (by decide)).2 hsmall).eq_least (le_refl 0)
  -- So the three entries are known.
  have hall : entries = [2, 1 / 2, least 1] := by
    obtain ⟨a, b, c, rfl⟩ := List.length_eq_three.1 hlength
    simp only [List.cons.injEq, and_true]
    exact ⟨hfirst, hsecond, hthird⟩
  have hcountTwo : count = 2 := by
    rw [hcount, hall]
    norm_num [hleast]
  subst hcountTwo
  exact ⟨hbounds, hmultipliers, entries, hok, hall, hagain⟩

end InteriorPoint.Slack
