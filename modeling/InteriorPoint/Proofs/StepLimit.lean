import Mathlib.Data.List.GetD
import Mathlib.Tactic.Linarith
import InteriorPoint.Proofs.Linear.Fitting
import InteriorPoint.Proofs.Scalar.Exact

/-!
# `InteriorPoint.Proofs.StepLimit`: what the fraction-to-the-boundary rule guarantees

A step length suits a vector of distances if every distance that is not
negative keeps the fraction `1 - tau` (`StepLimit.Suits`). In exact
arithmetic all lengths from zero up to the limit do (`limit_admits`), and a
minimum of limits suits all the vectors that any of them was computed for
(`Admits.min`, `Admits.foldl_min`).

The limit is a minimum over the entries that move towards zero, which a
fold computes with one as its start. A length is at most that minimum if it
is at most one and at most what each of these entries allows
(`le_foldl_restrict_iff`). The maximum with zero at the end can raise the
result only where some entry is negative, and such an entry is promised
nothing.

That the limit is a number and at most one needs no arithmetic
(`limit_le_one`).
-/

set_option autoImplicit false

namespace InteriorPoint.StepLimit

open Checked (Gives)

/-! ### The limit as a number -/

section
variable {α : Type} [Scalar α]

/-- What the entries allow of a step of length one, but not less than
zero. -/
def limit (tau : α) (values delta : List α) : α :=
  Scalar.max
    ((List.zip values delta).foldl (fun alpha entry => restrict tau alpha entry.1 entry.2) 1) 0

/-- For vectors of one size the rule gives the limit. -/
theorem fractionToBoundary_eq_limit {tau : α} {values delta : List α}
    (hlength : values.length = delta.length) :
    fractionToBoundary tau values delta = .ok (limit tau values delta) := by
  rw [fractionToBoundary, ensureSize_eq_ok.2 hlength]
  rfl

variable [LawfulComparison α] {tau : α}

/-- An entry can only lower the limit. -/
theorem restrict_le {alpha : α} (halpha : Scalar.IsNumber alpha) (value step : α) :
    restrict tau alpha value step ≤ alpha := by
  unfold restrict
  split
  · exact Scalar.min_le_left halpha
  · exact halpha

/-- So can all entries together. -/
theorem foldl_restrict_le (entries : List (α × α)) {start : α} (hstart : Scalar.IsNumber start) :
    entries.foldl (fun alpha entry => restrict tau alpha entry.1 entry.2) start ≤ start := by
  induction entries generalizing start with
  | nil => exact hstart
  | cons entry entries ih =>
      -- The lowered limit is a number again, so the rest starts from one.
      have hfirst := @restrict_le _ _ _ tau _ hstart entry.1 entry.2
      exact LawfulComparison.le_trans (ih (LawfulComparison.isNumber_left hfirst)) hfirst

/-- The limit is a number, and at most one, whatever the entries are. -/
theorem limit_le_one (hone : (0 : α) ≤ 1) (values delta : List α) :
    limit tau values delta ≤ 1 :=
  Scalar.max_le (foldl_restrict_le _ (LawfulComparison.isNumber_right hone)) hone

end

/-! ### Exact arithmetic -/

variable {K : Type} [Field K] [LinearOrder K] [ExactFunctions K] {tau : K}

/-- The limit lies in `[0, 1]`, and every length from zero up to it has a
property. -/
structure Admits (limit : K) (property : K → Prop) : Prop where
  nonneg : 0 ≤ limit
  le_one : limit ≤ 1
  of_le : ∀ a, 0 ≤ a → a ≤ limit → property a

/-- A weaker property holds up to the same limit. -/
theorem Admits.imp {limit : K} {property property' : K → Prop} (h : Admits limit property)
    (himp : ∀ a, property a → property' a) : Admits limit property' :=
  ⟨h.nonneg, h.le_one, fun a ha hle => himp a (h.of_le a ha hle)⟩

/-- A length up to a minimum is a length up to both of its parts. -/
theorem Admits.min {first second : K} {property property' : K → Prop}
    (h : Admits first property) (h' : Admits second property') :
    Admits (Scalar.min first second) fun a => property a ∧ property' a := by
  rw [Scalar.min_eq]
  refine ⟨le_min h.nonneg h'.nonneg, (min_le_left _ _).trans h.le_one, fun a ha hle => ⟨?_, ?_⟩⟩
  · exact h.of_le a ha (hle.trans (min_le_left _ _))
  · exact h'.of_le a ha (hle.trans (min_le_right _ _))

/-- A length up to a running minimum is a length up to its start and to each
of the limits. -/
theorem Admits.foldl_min {own : Family → K} {property : Family → K → Prop}
    (hown : ∀ family, Admits (own family) (property family)) (families : List Family)
    {start : K} {before : K → Prop} (hstart : Admits start before) :
    Admits (families.foldl (fun lowest family => Scalar.min lowest (own family)) start)
      fun a => before a ∧ ∀ family ∈ families, property family a := by
  induction families generalizing start before with
  | nil => exact hstart.imp fun a ha => ⟨ha, fun _ hmem => absurd hmem List.not_mem_nil⟩
  | cons family families ih =>
      -- The minimum with the first limit is where the rest starts.
      refine (ih (hstart.min (hown family))).imp ?_
      rintro a ⟨⟨hbefore, hfirst⟩, hrest⟩
      exact ⟨hbefore, List.forall_mem_cons.2 ⟨hfirst, hrest⟩⟩

/-- Every entry that is not negative keeps the fraction `1 - tau` along a
step of length `a`. -/
def Suits (tau a : K) (values delta : List K) : Prop :=
  ∀ entry ∈ List.zip values delta, 0 ≤ entry.1 → (1 - tau) * entry.1 ≤ entry.1 + a * entry.2

/-- A length is at most the lowered limit if it is at most the limit and at
most what the entry allows. -/
theorem le_restrict_iff {c alpha value step : K} :
    c ≤ restrict tau alpha value step ↔ c ≤ alpha ∧ (step < 0 → c ≤ -tau * value / step) := by
  unfold restrict
  split
  · rename_i hstep
    rw [Scalar.min_eq, le_min_iff]
    simp [hstep]
  · rename_i hstep
    simp [hstep]

/-- A length is at most the minimum if it is at most the start and at most
what each entry that moves down allows. -/
theorem le_foldl_restrict_iff {entries : List (K × K)} {start c : K} :
    c ≤ entries.foldl (fun alpha entry => restrict tau alpha entry.1 entry.2) start
      ↔ c ≤ start ∧ ∀ entry ∈ entries, entry.2 < 0 → c ≤ -tau * entry.1 / entry.2 := by
  induction entries generalizing start with
  | nil => simp
  | cons entry entries ih =>
      rw [List.foldl_cons, ih, le_restrict_iff, List.forall_mem_cons, and_assoc]

/-- The limit, with the maximum of the ordered field. -/
theorem limit_eq (values delta : List K) :
    limit tau values delta = max ((List.zip values delta).foldl
      (fun alpha entry => restrict tau alpha entry.1 entry.2) 1) 0 :=
  Scalar.max_eq _ _

/-- The limit is not negative. -/
theorem limit_nonneg (values delta : List K) : 0 ≤ limit tau values delta := by
  rw [limit_eq]
  exact le_max_right _ _

/-- Zero is at most the limit in any case. A positive length is if no entry
forbids it. -/
theorem le_limit_iff {values delta : List K} {c : K} (hc : 0 < c) :
    c ≤ limit tau values delta
      ↔ c ≤ 1 ∧ ∀ entry ∈ List.zip values delta, entry.2 < 0 → c ≤ -tau * entry.1 / entry.2 := by
  rw [limit_eq, le_max_iff, le_foldl_restrict_iff, or_iff_left (not_le.2 hc)]

/-- What a length that suits the entries leaves of one of them. -/
theorem Suits.getD {a : K} {values delta : List K} (h : Suits tau a values delta)
    (hlength : values.length = delta.length) {n : Nat} (hn : n < values.length)
    (hvalue : 0 ≤ values.getD n 0) :
    (1 - tau) * values.getD n 0 ≤ values.getD n 0 + a * delta.getD n 0 := by
  have hn' : n < delta.length := hlength ▸ hn
  rw [List.getD_eq_getElem _ _ hn] at hvalue ⊢
  rw [List.getD_eq_getElem _ _ hn']
  have hzip : n < (List.zip values delta).length := by simp [hn, hn']
  -- The entry and its change stand at one position.
  have hmem : (values[n], delta[n]) ∈ List.zip values delta := by
    rw [← List.getElem_zip (h := hzip)]
    exact List.getElem_mem hzip
  exact h _ hmem hvalue

variable [IsStrictOrderedRing K]

/-- An entry that moves towards zero keeps its fraction up to the length at
which it keeps exactly that. -/
theorem keeps_iff_of_neg {a value step : K} (hstep : step < 0) :
    (1 - tau) * value ≤ value + a * step ↔ a ≤ -tau * value / step := by
  rw [le_div_iff_of_neg hstep]
  constructor
  · intro hkeeps
    linarith
  · intro hle
    linarith

/-- An entry that does not move towards zero keeps its fraction along any
step. -/
theorem keeps_of_nonneg {a value step : K} (htau : 0 ≤ tau) (ha : 0 ≤ a) (hvalue : 0 ≤ value)
    (hstep : 0 ≤ step) : (1 - tau) * value ≤ value + a * step := by
  have hup := mul_nonneg ha hstep
  have hpart := mul_nonneg htau hvalue
  linarith

/-- An entry that is not negative allows a length that is not negative. -/
theorem allowed_nonneg (htau : 0 ≤ tau) {value step : K} (hvalue : 0 ≤ value) (hstep : step < 0) :
    0 ≤ -tau * value / step :=
  div_nonneg_of_nonpos (mul_nonpos_of_nonpos_of_nonneg (neg_nonpos.2 htau) hvalue) hstep.le

/-- All lengths from zero up to the limit suit the entries. -/
theorem limit_admits (htau : 0 ≤ tau) (values delta : List K) :
    Admits (limit tau values delta) (Suits tau · values delta) := by
  refine ⟨limit_nonneg _ _, limit_le_one zero_le_one _ _, fun a ha hle entry hmem hvalue => ?_⟩
  rcases lt_or_ge entry.2 0 with hstep | hstep
  · rw [keeps_iff_of_neg hstep]
    -- The maximum with zero says nothing of the length zero, which every entry allows.
    rcases ha.eq_or_lt with rfl | hpos
    · exact allowed_nonneg htau hvalue hstep
    · exact ((le_limit_iff hpos).1 hle).2 entry hmem hstep
  · exact keeps_of_nonneg htau ha hvalue hstep

end InteriorPoint.StepLimit
