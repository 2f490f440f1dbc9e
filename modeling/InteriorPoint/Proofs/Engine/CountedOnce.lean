import Mathlib.Algebra.BigOperators.Group.Finset.Basic
import InteriorPoint.Proofs.Engine.Transparency
import InteriorPoint.Proofs.Quantity.Visits

/-!
# `InteriorPoint.Proofs.Engine.CountedOnce`: corrections are counted once for each slack

Computing a slack adds the number of its collapsed entries to a counter.
A slack may be computed as a part of many quantities and at either point,
and a request whose result is stored does not come to its slacks at all.
Even so the counter is a sum without repetitions
(`Session.corrections_counted_once`).

The account is kept by a set of pairs of vectors, each of which determines
a slack (`Counted`). The counter is the sum over these pairs. Every stored
result was computed from slacks of these pairs (`Sourced`), so that
nothing is missed where a result is found. And the slacks of those pairs
that can still be asked for are stored (`Setting.HoldsSlack`), so that
nothing is counted again.

An answer adds to the set what the quantity visits (`Memory.Counts`). An
acceptance adds nothing: it leaves the pair of the trial point, whose
slack is in one of the two caches (`Counted.accepted`).
-/

set_option autoImplicit false

namespace InteriorPoint

variable {α : Type}

/-! ### Counters -/

namespace PerFamily

variable {β : Type}

/-- The changed entry. -/
theorem get_modify_self (values : PerFamily β) (family : Family) (change : β → β) :
    (values.modify family change).get family = change (values.get family) := by
  rcases family with ⟨_ | _, _ | _⟩ <;> rfl

/-- The others stay as they are. -/
theorem get_modify_of_ne (values : PerFamily β) {family other : Family} (hne : other ≠ family)
    (change : β → β) : (values.modify family change).get other = values.get other := by
  rcases other with ⟨_ | _, _ | _⟩ <;> exact if_neg hne

end PerFamily

/-- Only a report of corrections of the family moves its counter. -/
theorem Memory.adjusted_record {m : Memory α} {event : Event α} {family : Family}
    (hevent : ∀ count point, event ≠ .safeguarded count family point) :
    (m.record event).adjusted.get family = m.adjusted.get family := by
  cases event with
  | safeguarded count own point =>
      refine PerFamily.get_modify_of_ne _ (fun hsame => ?_) _
      exact hevent count point (by rw [hsame])
  | _ => rfl

variable [Scalar α]

/-- The formula of a slack gives a value, and the counter of its family
grows by the number of collapsed entries. -/
theorem Setting.Sound.executes_slack {setting : Setting α} (h : setting.Sound) {point : Point}
    {iterate : Iterate α} (hat : setting.state.iterateAt point = .ok iterate) {family : Family}
    {answers : Memory.Answers α} {m m' : Memory α} {r : Checked α (List α)}
    (hrun : Memory.Executes answers ((Quantity.slack point family).formula setting) m r m') :
    (∃ value, r = .ok value) ∧ m'.store = m.store
      ∧ m'.adjusted.get family
        = m.adjusted.get family
          + setting.collapsed family (iterate.primal family.block).entries := by
  obtain ⟨⟨corrected, count⟩, hresult, -, rfl⟩ := h.safeguarded hat family
  rw [h.formula_slack hat family, hresult, Program.lift_ok_bind] at hrun
  by_cases hcount : 0 < setting.collapsed family (iterate.primal family.block).entries
  · rw [if_pos hcount] at hrun
    cases hrun with
    | report hdone =>
        cases hdone
        exact ⟨⟨_, rfl⟩, rfl, PerFamily.get_modify_self _ _ _⟩
  · -- Nothing is reported, and nothing is to be counted.
    rw [if_neg hcount] at hrun
    cases hrun
    exact ⟨⟨_, rfl⟩, rfl, by omega⟩

/-! ### Stored slacks -/

omit [Scalar α] in
/-- The caches of slacks serve slacks only. -/
theorem Quantity.eq_slack_of_slot {q : Quantity α .vector} {point : Point} {family : Family}
    (h : q.slot = .slack point family) : q = .slack point family := by
  cases q <;> cases h
  rfl

namespace Setting

variable {setting : Setting α} {family : Family} {pair : TaggedVector α × TaggedVector α}

/-- The pair is that of a point of the state. -/
def HasPair (setting : Setting α) (family : Family) (pair : TaggedVector α × TaggedVector α) :
    Prop :=
  ∃ point iterate, setting.state.iterateAt point = .ok iterate ∧ iterate.slackPair family = pair

/-- The key under which the slack of a pair is stored. -/
def slackKey (setting : Setting α) (pair : TaggedVector α × TaggedVector α) : Key α :=
  (Key.ofTags [pair.1.tag, pair.2.tag]).number setting.mu

/-- The key of a slack is that of its pair. -/
theorem key_slack {point : Point} {iterate : Iterate α}
    (hat : setting.state.iterateAt point = .ok iterate) (family : Family) :
    setting.key (.slack point family) = .ok (setting.slackKey (iterate.slackPair family)) := by
  rw [key, hat]
  rfl

/-- A slack has a key if there is a point, and then it is that of the
pair. -/
theorem iterateAt_of_key_slack {point : Point} {key : Key α}
    (h : setting.key (.slack point family) = .ok key) :
    ∃ iterate, setting.state.iterateAt point = .ok iterate
      ∧ key = setting.slackKey (iterate.slackPair family) := by
  obtain ⟨iterate, hat, hkey⟩ := Checked.bind_eq_ok.1 h
  exact ⟨iterate, hat, (Checked.pure_eq_ok.1 hkey).symm⟩

/-- The slack of the pair is stored, in a cache that no request uses for
another pair. -/
def HoldsSlack (setting : Setting α) (store : Store α) (family : Family)
    (pair : TaggedVector α × TaggedVector α) : Prop :=
  ∃ point, (∀ iterate, setting.state.iterateAt point = .ok iterate →
      iterate.slackPair family = pair)
    ∧ ∃ kept, store.held? (.slack point family) (setting.slackKey pair) = some kept

/-- Storing a result under the key of its quantity keeps the slacks that
are stored. -/
theorem HoldsSlack.remember {store : Store α} (h : setting.HoldsSlack store family pair) {k : Kind}
    {q : Quantity α k} {key : Key α} (hkey : setting.key q = .ok key) (kept : Kept α k) :
    setting.HoldsSlack (store.remember q.slot key kept) family pair := by
  obtain ⟨point, honly, held, hheld⟩ := h
  by_cases hsame : (⟨.vector, .slack point family⟩ : Sigma Slot) = ⟨k, q.slot⟩
  · -- The cache is written to under the key that it is read under.
    obtain ⟨rfl, hslot⟩ := Sigma.mk.inj hsame
    obtain rfl := Quantity.eq_slack_of_slot (eq_of_heq hslot).symm
    obtain ⟨iterate, hat, rfl⟩ := iterateAt_of_key_slack hkey
    rw [honly iterate hat]
    exact ⟨point, honly, kept, Store.held?_remember_self _ _ _ _⟩
  · refine ⟨point, honly, held, ?_⟩
    rw [Store.held?, Store.cache_remember_of_ne store hsame]
    exact hheld

/-- A slack that neither cache has is not stored. -/
theorem not_holdsSlack_of_missing {store : Store α} {point : Point} {iterate : Iterate α}
    (h : Memory.Missing setting (.slack point family)
      (setting.slackKey (iterate.slackPair family)) store) :
    ¬ setting.HoldsSlack store family (iterate.slackPair family) := by
  rintro ⟨point', -, kept, hheld⟩
  -- Each of the two points has one of the two caches.
  have hnone : store.held? (.slack point' family)
      (setting.slackKey (iterate.slackPair family)) = none := by
    cases point <;> cases point' <;> first | exact h.own | exact h.counterpart
  rw [hnone] at hheld
  cases hheld

/-- Computing the quantity anew computes the slack of the pair. -/
def VisitsPair (setting : Setting α) (family : Family) (pair : TaggedVector α × TaggedVector α)
    {k : Kind} (q : Quantity α k) : Prop :=
  ∃ point iterate, setting.Visits point family q ∧ setting.state.iterateAt point = .ok iterate
    ∧ iterate.slackPair family = pair

/-- A pair that is visited is that of a point. -/
theorem VisitsPair.hasPair {k : Kind} {q : Quantity α k} (h : setting.VisitsPair family pair q) :
    setting.HasPair family pair := by
  obtain ⟨point, iterate, -, hat, hpair⟩ := h
  exact ⟨point, iterate, hat, hpair⟩

/-- A slack visits its own pair. -/
theorem visitsPair_slack_iff {point : Point} {iterate : Iterate α}
    (hat : setting.state.iterateAt point = .ok iterate) :
    setting.VisitsPair family pair (.slack point family) ↔ pair = iterate.slackPair family := by
  constructor
  · rintro ⟨point', iterate', hvisits, hat', rfl⟩
    obtain ⟨rfl, -⟩ := hvisits.usesSlack
    rw [show setting.state.iterateAt point = .ok iterate' from hat'] at hat
    cases hat
    rfl
  · rintro rfl
    exact ⟨point, iterate, .slack ⟨_, key_slack hat family⟩, hat, rfl⟩

/-- A quantity other than a slack visits what its parts visit. -/
theorem visitsPair_iff {k : Kind} {q : Quantity α k} {key : Key α} (hkey : setting.key q = .ok key)
    (hslack : ∀ point, (⟨k, q⟩ : Sigma (Quantity α)) ≠ ⟨.vector, .slack point family⟩) :
    setting.VisitsPair family pair q
      ↔ ∃ part : Sigma (Quantity α), setting.Asks part (q.formula setting)
        ∧ setting.VisitsPair family pair part.2 := by
  constructor
  · rintro ⟨point, iterate, hvisits, hat⟩
    cases hvisits with
    | slack => exact absurd rfl (hslack point)
    | part _ hasks hpart => exact ⟨⟨_, _⟩, hasks, point, iterate, hpart, hat⟩
  · rintro ⟨part, hasks, point, iterate, hpart, hat⟩
    exact ⟨point, iterate, .part ⟨key, hkey⟩ hasks hpart, hat⟩

end Setting

/-! ### The invariant -/

/-- The slacks that a stored result was computed from are among the given
pairs. -/
def Sourced (pool : Pool α) (setting : Setting α) (family : Family)
    (pairs : Finset (TaggedVector α × TaggedVector α)) ⦃k : Kind⦄ (slot : Slot k) (key : Key α)
    (_ : Kept α k) : Prop :=
  ∃ (source : Setting α) (q : Quantity α k), source.SameFrame setting ∧ source.state.Known pool
    ∧ q.slot = slot ∧ source.key q = .ok key
    ∧ ∀ iterate, source.state.iterateAt q.point = .ok iterate → source.UsesSlack family q →
      iterate.slackPair family ∈ pairs

section
variable {pool : Pool α} {setting : Setting α} {family : Family}
  {pairs : Finset (TaggedVector α × TaggedVector α)}

/-- More pairs may be given. -/
theorem Sourced.mono {pairs' : Finset (TaggedVector α × TaggedVector α)} (hsub : pairs ⊆ pairs')
    {k : Kind} {slot : Slot k} {key : Key α} {kept : Kept α k}
    (h : Sourced pool setting family pairs slot key kept) :
    Sourced pool setting family pairs' slot key kept := by
  obtain ⟨source, q, hframe, hknown, hslot, hkey, hmem⟩ := h
  exact ⟨source, q, hframe, hknown, hslot, hkey, fun i hat huses => hsub (hmem i hat huses)⟩

/-- The slacks of a quantity whose result was found are among the pairs. -/
theorem Sourced.mem (hpool : pool.Coherent) (hstate : setting.state.Known pool) {k : Kind}
    {q : Quantity α k} {slot : Slot k} {key : Key α} {kept : Kept α k}
    (h : Sourced pool setting family pairs slot key kept)
    (hslot : q.slot = slot ∨ q.slot.counterpart? = some slot) (hkey : setting.key q = .ok key)
    {pair : TaggedVector α × TaggedVector α} (hvisits : setting.VisitsPair family pair q) :
    pair ∈ pairs := by
  obtain ⟨source, other, hframe, hknown, rfl, hsource, hmem⟩ := h
  obtain ⟨point, iterate, hvisits, hat, rfl⟩ := hvisits
  obtain ⟨rfl, huses⟩ := hvisits.usesSlack
  -- Equal keys come from equal slacks, also when the state was another one.
  obtain ⟨huses', i, i', hi, hi', hsame⟩ :=
    Setting.slackPair_of_key_eq hpool hframe.symm hstate hknown hslot hkey hsource huses
  rw [hat] at hi
  cases hi
  rw [hsame]
  exact hmem i' hi' huses'

/-- The counter of the family is the number of collapsed entries of the
pairs. Results are values and were computed from these slacks, and what
can still be asked for of the slacks is stored. -/
structure Counted (pool : Pool α) (setting : Setting α) (family : Family)
    (pairs : Finset (TaggedVector α × TaggedVector α)) (store : Store α) (total : Nat) : Prop where
  explained : store.All (Explained pool setting)
  sourced : store.All (Sourced pool setting family pairs)
  held : ∀ pair ∈ pairs, setting.HasPair family pair → setting.HoldsSlack store family pair
  total_eq : total = ∑ pair ∈ pairs, setting.collapsed family pair.1.entries

/-- A result whose slacks are counted may be stored. -/
theorem Counted.remember {store : Store α} {total : Nat}
    (h : Counted pool setting family pairs store total) (hstate : setting.state.Known pool)
    {k : Kind} {q : Quantity α k} {key : Key α} {kept : Kept α k} (hkey : setting.key q = .ok key)
    (hexplained : (store.remember q.slot key kept).All (Explained pool setting))
    (hmem : ∀ iterate, setting.state.iterateAt q.point = .ok iterate → setting.UsesSlack family q →
      iterate.slackPair family ∈ pairs) :
    Counted pool setting family pairs (store.remember q.slot key kept) total where
  explained := hexplained
  sourced := h.sourced.remember ⟨setting, q, .refl setting, hstate, rfl, hkey, hmem⟩
  held pair hpair hhas := (h.held pair hpair hhas).remember hkey kept
  total_eq := h.total_eq

/-- A slack that was missing is a new one. It is stored and counted. -/
theorem Counted.insert {store : Store α} {total : Nat}
    (h : Counted pool setting family pairs store total) (hstate : setting.state.Known pool)
    {point : Point} {iterate : Iterate α} (hat : setting.state.iterateAt point = .ok iterate)
    (hmissing : Memory.Missing setting (.slack point family)
      (setting.slackKey (iterate.slackPair family)) store)
    {kept : Kept α .vector}
    (hexplained : (store.remember (.slack point family)
      (setting.slackKey (iterate.slackPair family)) kept).All (Explained pool setting)) :
    Counted pool setting family (insert (iterate.slackPair family) pairs)
      (store.remember (.slack point family) (setting.slackKey (iterate.slackPair family)) kept)
      (total + setting.collapsed family (iterate.primal family.block).entries) := by
  -- A pair that was counted before is held, and then the slack would not be missing.
  have hnew : iterate.slackPair family ∉ pairs := fun hmem =>
    Setting.not_holdsSlack_of_missing hmissing (h.held _ hmem ⟨point, iterate, hat, rfl⟩)
  -- The point of the slack determines its pair.
  have honly : ∀ other, setting.state.iterateAt point = .ok other →
      other.slackPair family = iterate.slackPair family := by
    intro other hother
    rw [hat] at hother
    cases hother
    rfl
  refine ⟨hexplained, ?_, ?_, ?_⟩
  · refine (h.sourced.mono fun hold => hold.mono (Finset.subset_insert _ _)).remember ?_
    refine ⟨setting, .slack point family, .refl setting, hstate, rfl, hmissing.key_eq, ?_⟩
    intro other hother _
    rw [honly other hother]
    exact Finset.mem_insert_self _ _
  · intro pair hpair hhas
    rcases Finset.mem_insert.1 hpair with rfl | hold
    · exact ⟨point, honly, kept, Store.held?_remember_self _ _ _ _⟩
    · exact (h.held pair hold hhas).remember (q := .slack point family) hmissing.key_eq kept
  · rw [Finset.sum_insert hnew, ← h.total_eq, Nat.add_comm]
    rfl

end

/-! ### Evaluations -/

namespace Memory

variable {pool : Pool α} {setting : Setting α} {family : Family}

/-- The counter of a memory is right for these pairs. -/
def Counted (pool : Pool α) (setting : Setting α) (family : Family)
    (pairs : Finset (TaggedVector α × TaggedVector α)) (m : Memory α) : Prop :=
  InteriorPoint.Counted pool setting family pairs m.store (m.adjusted.get family)

/-- An answer counts the slacks that are visited, unless they were counted
before. -/
def Counts (pool : Pool α) (setting : Setting α) (family : Family) : Answers α :=
  fun _ q m r m' => Transparent pool setting q m r m'
    ∧ (q.Known pool → ∀ pairs, m.Counted pool setting family pairs →
      ∃ pairs', m'.Counted pool setting family pairs'
        ∧ ∀ pair, pair ∈ pairs' ↔ pair ∈ pairs ∨ setting.VisitsPair family pair q)

/-- An execution counts what the requests of the program visit. They are
read off a program like it, which goes on with the values where the
execution goes on with what was stored. -/
theorem executes_counts (hpool : pool.Coherent) (hstate : setting.state.Known pool) {bound : Nat}
    {β γ : Type} {R : β → γ → Prop} {p : Program α bound β} {p' : Program α bound γ}
    {m m' : Memory α} {r : Checked α β}
    {asks : {k : Kind} → Quantity α k → Prop} {reports : Event α → Prop} {returns : β → Prop}
    (hpasses : p.Within setting.Passes reports returns)
    (hsilent : p.Within asks (fun event => ∀ count point, event ≠ .safeguarded count family point)
      returns)
    (halike : p.Alike R p') (h : Executes (Counts pool setting family) p m r m')
    {pairs : Finset (TaggedVector α × TaggedVector α)}
    (hcounted : m.Counted pool setting family pairs) :
    ∃ pairs', m'.Counted pool setting family pairs'
      ∧ ∀ pair, pair ∈ pairs' ↔ pair ∈ pairs ∨ ∃ part : Sigma (Quantity α),
        setting.Asks part p' ∧ setting.VisitsPair family pair part.2 := by
  -- Along the execution: what is asked for adds to the pairs, reports do not move the counter.
  induction h generalizing p' pairs with
  | done =>
      cases halike with
      | done => exact ⟨pairs, hcounted, fun pair => by simp [Setting.Asks]⟩
  | fail =>
      cases halike with
      | fail => exact ⟨pairs, hcounted, fun pair => by simp [Setting.Asks]⟩
  | report _ ih =>
      cases halike with
      | report event hnext =>
          refine ih hpasses.2 hsilent.2 hnext ?_
          rw [Counted, adjusted_record hsilent.1]
          exact hcounted
  | @ask _ part _ next m m₁ _ kept _ hpart _ ih =>
      cases halike with
      | ask _ _ hnext =>
          have hknown := hpasses.1.known hpool hstate
          obtain ⟨value, hvalue, hkept⟩ := (hpart.1 hknown hcounted.explained).2.exists_ok
          obtain ⟨pairs₁, hcounted₁, hmem₁⟩ := hpart.2 hknown pairs hcounted
          obtain ⟨pairs', hcounted', hmem'⟩ :=
            ih (hpasses.2 _) (hsilent.2 _) (hnext _ value hkept) hcounted₁
          refine ⟨pairs', hcounted', fun pair => ?_⟩
          simp only [hmem', hmem₁, Setting.asks_ask_of_ok hvalue, or_assoc, or_and_right,
            exists_or, exists_eq_left']
  | @refused _ part _ next m m' error hpart =>
      cases halike with
      | ask _ _ hnext =>
          have hknown := hpasses.1.known hpool hstate
          have hvalue := (hpart.1 hknown hcounted.explained).2.eq_error
          obtain ⟨pairs', hcounted', hmem'⟩ := hpart.2 hknown pairs hcounted
          refine ⟨pairs', hcounted', fun pair => ?_⟩
          simp only [hmem', Setting.asks_ask_of_error hvalue, exists_eq_left']

/-- A formula other than that of a slack reports no corrections of the
family. -/
theorem formula_uncorrected {k : Kind} {q : Quantity α k}
    (hslack : ∀ point, (⟨k, q⟩ : Sigma (Quantity α)) ≠ ⟨.vector, .slack point family⟩) :
    (q.formula setting).Within (setting.Contains q)
      (fun event => ∀ count point, event ≠ .safeguarded count family point) fun _ => True := by
  refine (q.formula_contains setting).mono (fun _ h => h) ?_ fun _ h => h
  rintro _ hreports count point rfl
  cases hreports with
  | safeguarded _ h => exact hslack point h

/-- The formula of anything but a slack of the family counts what the
quantity visits. -/
theorem executes_counts_of_ne_slack [LawfulZero α] (hpool : pool.Coherent)
    (hstate : setting.state.Known pool) {k : Kind} {q : Quantity α k}
    (hslack : ∀ point, (⟨k, q⟩ : Sigma (Quantity α)) ≠ ⟨.vector, .slack point family⟩)
    {key : Key α} (hkey : setting.key q = .ok key) {m m' : Memory α} {r : Checked α (Carrier α k)}
    (h : Executes (Counts pool setting family) (q.formula setting) m r m')
    {pairs : Finset (TaggedVector α × TaggedVector α)}
    (hcounted : m.Counted pool setting family pairs) :
    ∃ pairs', m'.Counted pool setting family pairs'
      ∧ ∀ pair, pair ∈ pairs' ↔ pair ∈ pairs ∨ setting.VisitsPair family pair q := by
  obtain ⟨pairs', hcounted', hmem⟩ := executes_counts hpool hstate (q.formula_passes setting)
    (formula_uncorrected hslack) (q.formula_alike setting) h hcounted
  -- What the formula counts are the pairs that its parts visit.
  refine ⟨pairs', hcounted', fun pair => ?_⟩
  rw [hmem, Setting.visitsPair_iff hkey hslack]

/-- The formula of a slack that was missing counts the slack, which is then
stored. -/
theorem executes_counts_slack (hstate : setting.state.Known pool) (hsound : setting.Sound)
    {point : Point} {iterate : Iterate α} (hat : setting.state.iterateAt point = .ok iterate)
    {answers : Answers α} {m m' : Memory α} {value : List α}
    (h : Executes answers ((Quantity.slack point family).formula setting) m (.ok value) m')
    (hmissing : Missing setting (.slack point family)
      (setting.slackKey (iterate.slackPair family)) m.store)
    {pairs : Finset (TaggedVector α × TaggedVector α)}
    (hcounted : m.Counted pool setting family pairs) {kept : Kept α .vector}
    (hexplained : (m'.store.remember (.slack point family)
      (setting.slackKey (iterate.slackPair family)) kept).All (Explained pool setting)) :
    InteriorPoint.Counted pool setting family (insert (iterate.slackPair family) pairs)
      (m'.store.remember (.slack point family) (setting.slackKey (iterate.slackPair family)) kept)
      (m'.adjusted.get family) := by
  -- The formula of a slack asks for nothing, so the caches are as before.
  obtain ⟨-, hstore, hadjusted⟩ := hsound.executes_slack hat h
  rw [hstore] at hexplained
  rw [hstore, hadjusted]
  exact hcounted.insert hstate hat hmissing hexplained

variable [LawfulComparison α] [LawfulZero α]

/-- A step of an evaluation counts the slacks that are visited, given that
the parts do. -/
theorem counts_of_answered (hpool : pool.Coherent) (hstate : setting.state.Known pool)
    (hsound : setting.Sound) {k : Kind} {q : Quantity α k} {m m' : Memory α}
    {r : Checked α (Kept α k)} (h : Answered setting (Counts pool setting family) q m r m') :
    Counts pool setting family q m r m' := by
  have htransparent := transparent_of_answered hpool hstate (h.mono And.left)
  refine ⟨htransparent, fun hknown pairs hcounted => ?_⟩
  obtain ⟨hexplained, hvalue⟩ := htransparent hknown hcounted.explained
  -- What is visited by a quantity whose result is found has been counted.
  have hfound : ∀ {slot : Slot k} {key : Key α} {kept : Kept α k},
      (q.slot = slot ∨ q.slot.counterpart? = some slot) → setting.key q = .ok key →
      m.store.held? slot key = some kept →
      ∀ pair, setting.VisitsPair family pair q → pair ∈ pairs :=
    fun hslot hkey hheld _ => (hcounted.sourced _ _ _ hheld).mem hpool hstate hslot hkey
  -- A result is given for a quantity only after all slacks that it uses were visited.
  have hused : ∀ {value : Carrier α k}, setting.value q = .ok value → ∀ iterate,
      setting.state.iterateAt q.point = .ok iterate → setting.UsesSlack family q →
        setting.VisitsPair family (iterate.slackPair family) q :=
    fun hvalue iterate hat huses =>
      ⟨q.point, iterate, Setting.visits_of_usesSlack hvalue huses, hat, rfl⟩
  cases h with
  | refused hkey =>
      refine ⟨pairs, hcounted, fun pair => ⟨Or.inl, ?_⟩⟩
      rintro (hmem | ⟨point, iterate, hvisits, -⟩)
      · exact hmem
      · obtain ⟨key, hok⟩ := hvisits.exists_key
        rw [hkey] at hok
        cases hok
  | held hkey hown =>
      refine ⟨pairs, hcounted, fun pair => ⟨Or.inl, ?_⟩⟩
      rintro (hmem | hvisits)
      · exact hmem
      · exact hfound (Or.inl rfl) hkey hown pair hvisits
  | copied hkey hown hother =>
      obtain ⟨other, hslot, hheld⟩ := Option.bind_eq_some_iff.1 hother
      have hvisited := hfound (Or.inr hslot) hkey hheld
      obtain ⟨_, hvalue, -⟩ := hvalue.exists_ok
      refine ⟨pairs, hcounted.remember hstate hkey hexplained fun iterate hat huses =>
        hvisited _ (hused hvalue iterate hat huses), fun pair => ⟨Or.inl, ?_⟩⟩
      rintro (hmem | hvisits)
      · exact hmem
      · exact hvisited pair hvisits
  | failed hmissing hformula =>
      by_cases hslack : ∃ point, (⟨k, q⟩ : Sigma (Quantity α)) = ⟨.vector, .slack point family⟩
      · -- The formula of a slack does not fail.
        obtain ⟨point, hsame⟩ := hslack
        obtain ⟨rfl, hq⟩ := Sigma.mk.inj hsame
        obtain rfl := eq_of_heq hq
        obtain ⟨iterate, hat, rfl⟩ := Setting.iterateAt_of_key_slack hmissing.key_eq
        obtain ⟨⟨value, hok⟩, -⟩ := hsound.executes_slack hat hformula
        cases hok
      · exact executes_counts_of_ne_slack hpool hstate (not_exists.1 hslack) hmissing.key_eq
          hformula hcounted
  | @computed key value m' hmissing hformula =>
      by_cases hslack : ∃ point, (⟨k, q⟩ : Sigma (Quantity α)) = ⟨.vector, .slack point family⟩
      · obtain ⟨point, hsame⟩ := hslack
        obtain ⟨rfl, hq⟩ := Sigma.mk.inj hsame
        obtain rfl := eq_of_heq hq
        obtain ⟨iterate, hat, rfl⟩ := Setting.iterateAt_of_key_slack hmissing.key_eq
        have hadded := executes_counts_slack hstate hsound hat hformula hmissing hcounted hexplained
        refine ⟨insert (iterate.slackPair family) pairs, hadded, fun pair => ?_⟩
        rw [Finset.mem_insert, Setting.visitsPair_slack_iff hat, or_comm]
      · obtain ⟨pairs', hcounted', hmem⟩ := executes_counts_of_ne_slack hpool hstate
          (not_exists.1 hslack) hmissing.key_eq hformula hcounted
        obtain ⟨_, hvalue, -⟩ := hvalue.exists_ok
        refine ⟨pairs', hcounted'.remember hstate hmissing.key_eq hexplained ?_, hmem⟩
        intro iterate hat huses
        exact (hmem _).2 (Or.inr (hused hvalue iterate hat huses))

/-- Every evaluation counts the slacks that are visited. -/
theorem evaluate_counts (hpool : pool.Coherent) (hstate : setting.state.Known pool)
    (hsound : setting.Sound) {k : Kind} (q : Quantity α k) (m : Memory α) :
    Counts pool setting family q m ((evaluate setting q).run m).1
      ((evaluate setting q).run m).2 :=
  evaluate_rule setting (fun _ _ _ _ => counts_of_answered hpool hstate hsound) q m

end Memory

/-! ### Runs -/

namespace Engine

variable {pool : Pool α} {engine : Engine α} {family : Family}

/-- On an engine with nothing stored, in the same state, the request
evaluates the slack of the pair, which is then stored. -/
def Evaluates (engine : Engine α) {k : Kind} (request : Request α k) (family : Family)
    (pair : TaggedVector α × TaggedVector α) : Prop :=
  engine.setting.HasPair family pair
    ∧ ∃ point kept, (engine.fresh.answer request {}).1.engine.store.held? (.slack point family)
        (engine.setting.slackKey pair) = some kept

/-- Requests, one after the other. -/
def asks (requests : List (Sigma (Request α))) : List (Action α) :=
  requests.map fun request => .ask request.2

/-- The counter of an engine is right for these pairs. -/
def Counted (pool : Pool α) (engine : Engine α) (family : Family)
    (pairs : Finset (TaggedVector α × TaggedVector α)) : Prop :=
  InteriorPoint.Counted pool engine.setting family pairs engine.store (engine.adjusted.get family)

/-- An engine with nothing stored and nothing counted is right for no
pairs. -/
theorem counted_of_empty (hstore : engine.store = {}) (hadjusted : engine.adjusted = ⟨0, 0, 0, 0⟩) :
    engine.Counted pool family ∅ := by
  rw [Counted, hstore, hadjusted]
  refine ⟨Store.all_empty _, Store.all_empty _, fun _ hmem => ?_, ?_⟩
  · exact absurd hmem (Finset.notMem_empty _)
  · rcases family with ⟨_ | _, _ | _⟩ <;> rfl

variable [LawfulComparison α] [LawfulZero α]

/-- An answer counts the slacks that the quantity visits. -/
theorem Counted.answer {pairs : Finset (TaggedVector α × TaggedVector α)}
    (hcounted : engine.Counted pool family pairs) (hpool : pool.Coherent)
    (hstate : engine.setting.state.Known pool) (hsound : engine.setting.Sound) {k : Kind}
    {request : Request α k} (hknown : request.Known pool) (supply : Supply) :
    ∃ pairs', (engine.answer request supply).1.engine.Counted pool family pairs'
      ∧ ∀ pair, pair ∈ pairs' ↔ pair ∈ pairs ∨ ∃ q, request.resolve engine.setting.state = .ok q
        ∧ engine.setting.VisitsPair family pair q := by
  rcases hresolve : request.resolve engine.setting.state with error | q
  · rw [answer_of_refused hresolve]
    exact ⟨pairs, hcounted, fun pair => by simp⟩
  · rw [answer_of_resolved hresolve]
    -- What the request stands for names vectors of the pool only.
    have hquantity := hknown.known_of_resolve hpool hstate hresolve
    obtain ⟨pairs', hcounted', hmem⟩ :=
      (Memory.evaluate_counts hpool hstate hsound q (engine.memory supply)).2 hquantity pairs
        hcounted
    exact ⟨pairs', hcounted', fun pair => by simp [hmem]⟩

/-- What is evaluated on an engine with nothing stored is what the
quantity visits. -/
theorem evaluates_iff (hpool : pool.Coherent) (hstate : engine.setting.state.Known pool)
    (hsound : engine.setting.Sound) {k : Kind} {request : Request α k} (hknown : request.Known pool)
    {pair : TaggedVector α × TaggedVector α} :
    engine.Evaluates request family pair ↔ ∃ q, request.resolve engine.setting.state = .ok q
      ∧ engine.setting.VisitsPair family pair q := by
  have hfresh : engine.fresh.Counted pool family ∅ := counted_of_empty rfl rfl
  obtain ⟨pairs, hcounted, hmem⟩ := hfresh.answer hpool hstate hsound hknown {}
  have hiff : pair ∈ pairs ↔ ∃ q, request.resolve engine.setting.state = .ok q
      ∧ engine.setting.VisitsPair family pair q := by
    rw [hmem]
    simp [fresh]
  rw [← hiff]
  constructor
  · rintro ⟨⟨point, iterate, hat, rfl⟩, point', kept, hheld⟩
    -- The cache of either point answers for the slack at this one.
    have hslot : Slot.slack point family = .slack point' family
        ∨ (Slot.slack point family).counterpart? = some (.slack point' family) := by
      cases point <;> cases point' <;> simp [Slot.counterpart?, Point.other]
    exact (hcounted.sourced _ _ _ hheld).mem (q := .slack point family) hpool hstate hslot
      (Setting.key_slack hat family) ((Setting.visitsPair_slack_iff hat).2 rfl)
  · intro hmember
    obtain ⟨q, -, hvisits⟩ := hiff.1 hmember
    obtain ⟨point, -, kept, hheld⟩ := hcounted.held pair hmember hvisits.hasPair
    exact ⟨hvisits.hasPair, point, kept, hheld⟩

omit [LawfulComparison α] [LawfulZero α] in
/-- Only the setting matters. -/
theorem evaluates_congr {engine' : Engine α} (h : engine'.setting = engine.setting) {k : Kind}
    {request : Request α k} {pair : TaggedVector α × TaggedVector α} :
    engine'.Evaluates request family pair ↔ engine.Evaluates request family pair := by
  have hfresh : engine'.fresh = engine.fresh := by
    rw [fresh, fresh, h]
  rw [Evaluates, Evaluates, h, hfresh]

/-- A series of requests counts what they evaluate. -/
theorem Run.counted {requests : List (Sigma (Request α))} {events : List (Event α)}
    {last : Engine α} (h : Run engine (asks requests) events last) (hpool : pool.Coherent)
    (hstate : engine.setting.state.Known pool) (hsound : engine.setting.Sound)
    (hknown : ∀ request ∈ requests, request.2.Known pool)
    {pairs : Finset (TaggedVector α × TaggedVector α)}
    (hcounted : engine.Counted pool family pairs) :
    last.setting = engine.setting ∧ ∃ pairs', last.Counted pool family pairs'
      ∧ ∀ pair, pair ∈ pairs' ↔ pair ∈ pairs
        ∨ ∃ request ∈ requests, engine.Evaluates request.2 family pair := by
  induction requests generalizing engine pairs events with
  | nil =>
      cases h
      exact ⟨rfl, pairs, hcounted, fun pair => by simp⟩
  | cons request requests ih =>
      cases h with
      | cons _ supply hrest =>
          obtain ⟨hrequest, hrequests⟩ := List.forall_mem_cons.1 hknown
          obtain ⟨pairs₁, hcounted₁, hmem₁⟩ := hcounted.answer hpool hstate hsound hrequest supply
          -- The setting stays, so all requests evaluate in the state of the first one.
          have hsame := engine.setting_of_ask request.2 supply
          obtain ⟨hsetting, pairs', hcounted', hmem'⟩ := ih hrest hstate hsound hrequests hcounted₁
          refine ⟨hsetting.trans hsame, pairs', hcounted', fun pair => ?_⟩
          simp only [hmem', hmem₁, ← evaluates_iff hpool hstate hsound hrequest,
            evaluates_congr hsame, or_assoc, List.mem_cons, or_and_right, exists_or,
            exists_eq_left]

end Engine

/-! ### Acceptance -/

/-- The setting after the trial point, if there is one, has become the
current point. -/
def Setting.accepted (setting : Setting α) : Setting α :=
  match setting.state.trial with
  | some iterate =>
    { setting with state :=
        { setting.state with
          current := iterate, trial := none, direction := none
          iterations := setting.state.iterations + 1 } }
  | none => setting

/-- An acceptance changes the setting and nothing else, and without a
trial point not even that. -/
theorem Engine.perform_acceptTrial_eq (engine : Engine α) (supply : Supply) :
    (engine.perform (.change .acceptTrial) supply).1.engine
      = { engine with setting := engine.setting.accepted } := by
  rcases htrial : engine.setting.state.trial with _ | iterate
  · -- The acceptance is refused.
    have hrun : (engine.setting.state.change .acceptTrial).run supply
        = (.error (.missingComponent "trial iterate"), supply) := by
      rw [State.change, State.iterateAt, htrial]
      rfl
    change (engine.changeState .acceptTrial supply).1.engine = _
    rw [changeState_of_refused hrun, Setting.accepted, htrial]
  · rw [perform_acceptTrial htrial, Setting.accepted, htrial]

section
variable {pool : Pool α} {setting : Setting α} {family : Family}
  {pairs : Finset (TaggedVector α × TaggedVector α)}

omit [Scalar α] in
/-- The point of the new state was that of the old one. -/
theorem Setting.known_accepted (hstate : setting.state.Known pool) :
    setting.accepted.state.Known pool := by
  unfold accepted
  split
  · rename_i iterate htrial
    exact ⟨hstate.trial _ htrial, by simp, by simp⟩
  · exact hstate

/-- It has the sizes that the state asks for. -/
theorem Setting.Sound.accepted (h : setting.Sound) : setting.accepted.Sound := by
  unfold Setting.accepted
  split
  · rename_i iterate htrial
    exact ⟨⟨h.valid.trial _ htrial, by simp, by simp⟩, h.dims, h.damping⟩
  · exact h

/-- The pairs that are left after an acceptance are that of the trial
point, whose slack is stored in one of the two caches. -/
theorem Counted.accepted {store : Store α} {total : Nat}
    (h : Counted pool setting family pairs store total) :
    Counted pool setting.accepted family pairs store total := by
  unfold Setting.accepted
  split
  · rename_i iterate htrial
    have hat : setting.state.iterateAt .trial = .ok iterate := State.iterateAt_trial_eq_ok.2 htrial
    have honly : ∀ {point other}, ({ setting.state with
          current := iterate, trial := none, direction := none
          iterations := setting.state.iterations + 1 } : State α).iterateAt point = .ok other →
        other = iterate := by
      intro point other hother
      cases point <;> cases hother
      rfl
    refine ⟨h.explained.mono ?_, h.sourced.mono ?_, ?_, h.total_eq⟩
    · rintro k slot key kept ⟨source, q, value, hframe, hsource⟩
      exact ⟨source, q, value, hframe.trans ⟨rfl, rfl, rfl, rfl⟩, hsource⟩
    · rintro k slot key kept ⟨source, q, hframe, hsource⟩
      exact ⟨source, q, hframe.trans ⟨rfl, rfl, rfl, rfl⟩, hsource⟩
    · -- What either cache holds for the trial point answers for the current one now.
      rintro pair hpair ⟨point, other, hother, rfl⟩
      obtain rfl := honly hother
      obtain ⟨point', -, hheld⟩ := h.held _ hpair ⟨.trial, other, hat, rfl⟩
      exact ⟨point', fun _ hat' => by rw [honly hat'], hheld⟩
  · exact h

end

/-! ### Sessions -/

/-- The setting after at most one acceptance. -/
def Setting.settled (setting : Setting α) : List (Action α) → Setting α
  | [] => setting
  | _ => setting.accepted

section
variable {pool : Pool α} {setting : Setting α} {family : Family} (acceptance : List (Action α))

omit [Scalar α] in
/-- The points are known after at most one acceptance. -/
theorem Setting.known_settled (hstate : setting.state.Known pool) :
    (setting.settled acceptance).state.Known pool := by
  cases acceptance with
  | nil => exact hstate
  | cons => exact known_accepted hstate

/-- So are their sizes as they should be. -/
theorem Setting.Sound.settled (h : setting.Sound) : (setting.settled acceptance).Sound := by
  cases acceptance with
  | nil => exact h
  | cons => exact h.accepted

/-- And the counter is still right. -/
theorem Counted.settled {pairs : Finset (TaggedVector α × TaggedVector α)} {store : Store α}
    {total : Nat} (h : Counted pool setting family pairs store total) :
    Counted pool (setting.settled acceptance) family pairs store total := by
  cases acceptance with
  | nil => exact h
  | cons => exact h.accepted

/-- How many entries collapse does not depend on the points of the state.
-/
theorem Setting.collapsed_settled (setting : Setting α) (family : Family) (full : List α) :
    (setting.settled acceptance).collapsed family full = setting.collapsed family full := by
  unfold settled accepted
  split
  · rfl
  · split <;> rfl

end

/-- A run of at most one acceptance changes the setting only. -/
theorem Engine.Run.eq_settled {engine engine' : Engine α} {acceptance : List (Action α)}
    {events : List (Event α)} (h : Run engine acceptance events engine')
    (hacceptance : acceptance = [] ∨ acceptance = [.change .acceptTrial]) :
    engine' = { engine with setting := engine.setting.settled acceptance } := by
  rcases hacceptance with rfl | rfl
  · cases h
    rfl
  · cases h with
    | cons _ supply hrest =>
        cases hrest
        exact engine.perform_acceptTrial_eq supply

omit [Scalar α] in
/-- The vectors of a pair are known. -/
theorem Setting.HasPair.mem {pool : Pool α} (hpool : pool.Coherent) {setting : Setting α}
    (hstate : setting.state.Known pool) {family : Family}
    {pair : TaggedVector α × TaggedVector α} (h : setting.HasPair family pair) :
    pair.1 ∈ pool.vectors ∧ pair.2 ∈ pool.vectors := by
  obtain ⟨point, iterate, hat, rfl⟩ := h
  have hcomponent := hpool.component_mem iterate (hstate.iterateAt hat)
  refine ⟨?_, hcomponent (.multiplier family)⟩
  rcases family with ⟨_ | _, side⟩
  · exact hcomponent .x
  · exact hcomponent .s

section
variable [LawfulComparison α] [LawfulZero α] {pool : Pool α} {engine last : Engine α}
  {before after : List (Sigma (Request α))} {acceptance : List (Action α)} {events : List (Event α)}

/-- A run counts what its requests evaluate, each in the state of its
time. -/
theorem Session.exists_counted (h : Session pool engine) (hstore : engine.store = {})
    (hadjusted : engine.adjusted = ⟨0, 0, 0, 0⟩)
    (hbefore : ∀ request ∈ before, request.2.Known pool)
    (hafter : ∀ request ∈ after, request.2.Known pool)
    (hacceptance : acceptance = [] ∨ acceptance = [.change .acceptTrial])
    (hrun : Engine.Run engine (Engine.asks before ++ acceptance ++ Engine.asks after) events last)
    (family : Family) :
    last.setting = engine.setting.settled acceptance
      ∧ ∃ pairs, last.Counted pool family pairs
        ∧ ∀ pair, pair ∈ pairs ↔ (∃ request ∈ before, engine.Evaluates request.2 family pair)
          ∨ ∃ request ∈ after, last.Evaluates request.2 family pair := by
  obtain ⟨hpool, hstate⟩ := h.coherent_known
  have hsound := h.reachable.wellFormed.sound
  obtain ⟨settled, _, _, hearly, hlate, -⟩ := hrun.split
  obtain ⟨middle, _, _, hfirst, hsecond, -⟩ := hearly.split
  have hempty : engine.Counted pool family ∅ := Engine.counted_of_empty hstore hadjusted
  obtain ⟨hsetting, pairs, hcounted, hmem⟩ := hfirst.counted hpool hstate hsound hbefore hempty
  -- The acceptance stands between the two series and moves no counter.
  rw [hsecond.eq_settled hacceptance, hsetting] at hlate
  rw [Engine.Counted, hsetting] at hcounted
  obtain ⟨hlast, pairs', hcounted', hmem'⟩ := hlate.counted hpool
    (Setting.known_settled acceptance hstate) (hsound.settled acceptance) hafter
    (hcounted.settled acceptance)
  refine ⟨hlast, pairs', hcounted', fun pair => ?_⟩
  simp only [hmem', hmem, Finset.notMem_empty, false_or, Engine.evaluates_congr hlast]

/-- Corrections are counted once for each slack, whatever the order of the
requests. Take an engine with nothing stored and nothing counted, any
requests, at most one acceptance of the trial point, and again any
requests. Then the counter of a family is the number of collapsed entries,
summed up over the pairs of vectors whose slack some request of the run
evaluates on an engine with nothing stored. The identities tell these
pairs apart. So neither the order of the requests nor their repetition
has an influence on the counters, and a further request that evaluates
none but these pairs leaves them as they are. -/
theorem Session.corrections_counted_once (h : Session pool engine) (hstore : engine.store = {})
    (hadjusted : engine.adjusted = ⟨0, 0, 0, 0⟩)
    (hbefore : ∀ request ∈ before, request.2.Known pool)
    (hafter : ∀ request ∈ after, request.2.Known pool)
    (hacceptance : acceptance = [] ∨ acceptance = [.change .acceptTrial])
    (hrun : Engine.Run engine (Engine.asks before ++ acceptance ++ Engine.asks after) events last) :
    (∀ family, ∃ pairs : Finset (TaggedVector α × TaggedVector α),
        (∀ pair, pair ∈ pairs ↔ (∃ request ∈ before, engine.Evaluates request.2 family pair)
          ∨ ∃ request ∈ after, last.Evaluates request.2 family pair)
        ∧ (∀ pair ∈ pairs, ∀ other ∈ pairs, pair.1.tag = other.1.tag → pair.2.tag = other.2.tag →
          pair = other)
        ∧ last.adjusted.get family
          = ∑ pair ∈ pairs, engine.setting.collapsed family pair.1.entries)
      ∧ (∀ before' after' events' last', (∀ request, request ∈ before' ↔ request ∈ before) →
        (∀ request, request ∈ after' ↔ request ∈ after) →
        Engine.Run engine (Engine.asks before' ++ acceptance ++ Engine.asks after') events' last' →
        last'.adjusted = last.adjusted)
      ∧ ∀ {k : Kind} (request : Request α k) (supply : Supply), request.Known pool →
        (∀ family pair, last.Evaluates request family pair →
          (∃ request ∈ before, engine.Evaluates request.2 family pair)
            ∨ ∃ request ∈ after, last.Evaluates request.2 family pair) →
        (last.answer request supply).1.engine.adjusted = last.adjusted := by
  obtain ⟨hpool, hstate⟩ := h.coherent_known
  have hcounted := h.exists_counted hstore hadjusted hbefore hafter hacceptance hrun
  obtain ⟨hsetting, -⟩ := hcounted .xLower
  have hlast : last.setting.state.Known pool := by
    rw [hsetting]
    exact Setting.known_settled acceptance hstate
  have hsound : last.setting.Sound := by
    rw [hsetting]
    exact h.reachable.wellFormed.sound.settled acceptance
  refine ⟨fun family => ?_, ?_, ?_⟩
  · obtain ⟨-, pairs, hcounted, hmem⟩ := hcounted family
    refine ⟨pairs, hmem, ?_, ?_⟩
    · have hvectors : ∀ pair ∈ pairs, pair.1 ∈ pool.vectors ∧ pair.2 ∈ pool.vectors := by
        intro pair hpair
        rcases (hmem pair).1 hpair with ⟨_, -, hevaluates⟩ | ⟨_, -, hevaluates⟩
        · exact hevaluates.1.mem hpool hstate
        · exact hevaluates.1.mem hpool hlast
      intro pair hpair other hother hfirst hsecond
      obtain ⟨h₁, h₂⟩ := hvectors pair hpair
      obtain ⟨h₁', h₂'⟩ := hvectors other hother
      exact Prod.ext (hpool.vector_eq _ h₁ _ h₁' hfirst) (hpool.vector_eq _ h₂ _ h₂' hsecond)
    · rw [hcounted.total_eq]
      refine Finset.sum_congr rfl fun pair _ => ?_
      rw [hsetting, Setting.collapsed_settled]
  · -- The same requests give the same pairs.
    intro before' after' events' last' hbefore' hafter' hrun'
    refine PerFamily.ext_get fun family => ?_
    obtain ⟨-, pairs, hcounted, hmem⟩ := hcounted family
    obtain ⟨hsetting', pairs', hcounted', hmem'⟩ := h.exists_counted hstore hadjusted
      (fun request hrequest => hbefore request ((hbefore' request).1 hrequest))
      (fun request hrequest => hafter request ((hafter' request).1 hrequest)) hacceptance hrun'
      family
    have hsame : last'.setting = last.setting := hsetting'.trans hsetting.symm
    have hpairs : pairs' = pairs := by
      ext pair
      simp only [hmem', hmem, hbefore', hafter', Engine.evaluates_congr hsame]
    rw [hcounted'.total_eq, hcounted.total_eq, hpairs, hsame]
  · -- A further request adds pairs that are there already.
    intro k request supply hknown hevaluated
    refine PerFamily.ext_get fun family => ?_
    obtain ⟨-, pairs, hcounted, hmem⟩ := hcounted family
    obtain ⟨pairs', hcounted', hmem'⟩ := hcounted.answer hpool hlast hsound hknown supply
    have hpairs : pairs' = pairs := by
      ext pair
      rw [hmem', ← Engine.evaluates_iff hpool hlast hsound hknown]
      refine or_iff_left_of_imp fun hevaluates => (hmem pair).2 ?_
      exact hevaluated family pair hevaluates
    rw [hcounted'.total_eq, hcounted.total_eq, hpairs]
    rfl

end

set_option maxRecDepth 20000 in
/-- The slack of the current point is on its bound. It is asked for twice,
and once more as a part of the complementarity, and is counted once. The
slack of the trial point is asked for again as that of the current one. -/
theorem Session.corrections_counted_once_halfLine :
    let before : List (Sigma (Request Binary64)) :=
      [⟨_, .quantity (.slack .current .xLower)⟩, ⟨_, .quantity (.complementarity .xLower)⟩,
        ⟨_, .quantity (.slack .current .xLower)⟩, ⟨_, .quantity (.slack .trial .xLower)⟩]
    let after : List (Sigma (Request Binary64)) := [⟨_, .quantity (.slack .current .xLower)⟩]
    ∃ events last,
      Engine.Run HalfLine.engine
        (Engine.asks before ++ [.change .acceptTrial] ++ Engine.asks after) events last
      ∧ last.adjusted = ⟨1, 0, 0, 0⟩
      ∧ ∃ pairs : Finset (TaggedVector Binary64 × TaggedVector Binary64),
        (∀ pair, pair ∈ pairs
          ↔ (∃ request ∈ before, HalfLine.engine.Evaluates request.2 .xLower pair)
            ∨ ∃ request ∈ after, last.Evaluates request.2 .xLower pair)
        ∧ last.adjusted.xLower
          = ∑ pair ∈ pairs, HalfLine.engine.setting.collapsed .xLower pair.1.entries := by
  intro before after
  have hknown : ∀ request ∈ before ++ after,
      request.2.Known (HalfLine.pool.learn HalfLine.state ⟨33⟩) := by
    intro request hrequest
    simp only [before, after, List.cons_append, List.nil_append, List.mem_cons, List.not_mem_nil,
      or_false] at hrequest
    rcases hrequest with rfl | rfl | rfl | rfl | rfl <;>
      exact fun _ hv => absurd hv List.not_mem_nil
  obtain ⟨events, last, hrun, hadjusted⟩ : ∃ events last,
      Engine.Run HalfLine.engine
        (Engine.asks before ++ [.change .acceptTrial] ++ Engine.asks after) events last
      ∧ last.adjusted = ⟨1, 0, 0, 0⟩ :=
    ⟨_, _, .cons _ ⟨33⟩ (.cons _ ⟨40⟩ (.cons _ ⟨50⟩ (.cons _ ⟨60⟩ (.cons _ ⟨70⟩ (.cons _ ⟨70⟩
      (.nil _)))))), rfl⟩
  -- Only the slack on the bound is corrected, although it is asked for three times.
  obtain ⟨hsum, -⟩ := Session.corrections_counted_once HalfLine.session rfl rfl
    (fun request hrequest => hknown request (List.mem_append_left _ hrequest))
    (fun request hrequest => hknown request (List.mem_append_right _ hrequest)) (Or.inr rfl) hrun
  obtain ⟨pairs, hmem, -, htotal⟩ := hsum .xLower
  exact ⟨events, last, hrun, hadjusted, pairs, hmem, htotal⟩

end InteriorPoint
