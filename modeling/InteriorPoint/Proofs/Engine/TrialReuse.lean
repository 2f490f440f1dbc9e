import InteriorPoint.Proofs.Engine.Agreement
import InteriorPoint.Proofs.Session

/-!
# `InteriorPoint.Proofs.Engine.TrialReuse`: results at an accepted trial point

What was answered at the trial point is answered again, in the same
storage, once this point has been accepted. No function of the problem
is called for it and no slack is corrected again. This concerns the
quantities that exist at both points and have a single result per point
(`Quantity.Reusable`), and it holds whatever else is asked in between,
before and after the acceptance.

The invariant is `Secured`: the cache of the trial point holds the result
under its key, and the cache of the current point holds nothing else
under this key. The first part survives because the cache of the trial
point is written to under this key only, and is not written to where the
key is held. The second part holds at the beginning because the caches of
the two points agree, and later because a miss at the current point is
answered from the trial point.
-/

set_option autoImplicit false

namespace InteriorPoint

variable {α : Type}

/-! ### Quantities of both points -/

namespace Quantity

/-- The quantity at a given point, if it exists at both. -/
def atPoint : {k : Kind} → Quantity α k → Point → Quantity α k
  | _, slack _ family, point => slack point family
  | _, objective _, point => objective point
  | _, barrierObjective _, point => barrierObjective point
  | _, constraint group _, point => constraint group point
  | _, inequalityResidual _, point => inequalityResidual point
  | _, constraintViolation _, point => constraintViolation point
  | _, primalInfeasibility _ norm, point => primalInfeasibility point norm
  | _, meanComplementarity _, point => meanComplementarity point
  | _, q, _ => q

/-- The quantities that exist at both points and have one result per
point. -/
inductive Reusable : {k : Kind} → Quantity α k → Prop where
  | slack (point : Point) (family : Family) : Reusable (.slack point family)
  | objective (point : Point) : Reusable (.objective point)
  | barrierObjective (point : Point) : Reusable (.barrierObjective point)
  | constraint (group : Group) (point : Point) : Reusable (.constraint group point)
  | inequalityResidual (point : Point) : Reusable (.inequalityResidual point)
  | constraintViolation (point : Point) : Reusable (.constraintViolation point)
  | meanComplementarity (point : Point) : Reusable (.meanComplementarity point)

variable {k : Kind} {q : Quantity α k}

/-- These are all quantities with a cache for either point that keeps a
single result. -/
theorem reusable_iff : q.Reusable ↔ q.slot.counterpart?.isSome ∧ q.slot.capacity = 1 := by
  constructor
  · intro h
    cases h <;> exact ⟨rfl, rfl⟩
  · rintro ⟨htwo, hone⟩
    cases q <;> first | constructor | (cases htwo; done) | cases hone

/-- The caches of the two points answer for each other. -/
theorem Reusable.counterpart_slot (h : q.Reusable) (point : Point) :
    (q.atPoint point).slot.counterpart? = some (q.atPoint point.other).slot := by
  cases h <;> rfl

/-- Such a quantity has its cache to itself. -/
theorem Reusable.eq_of_slot_eq (h : q.Reusable) {point : Point} {r : Quantity α k}
    (hslot : r.slot = (q.atPoint point).slot) : r = q.atPoint point := by
  cases h <;> cases r <;> cases hslot <;> rfl

variable [Scalar α] {setting setting' : Setting α}

/-- The key of such a quantity depends on the iterate at its point, the
barrier parameter and the options. -/
theorem Reusable.key_congr (h : q.Reusable) {point point' : Point}
    (hat : setting'.state.iterateAt point' = setting.state.iterateAt point)
    (hmu : setting'.mu = setting.mu) (hoptions : setting'.options = setting.options) :
    setting'.key (q.atPoint point') = setting.key (q.atPoint point) := by
  cases h <;> simp only [atPoint, Setting.key, hat, hmu, hoptions]

/-- A quantity has a key at a point only if the point is there. -/
theorem Reusable.iterateAt_of_key (h : q.Reusable) {point : Point} {key : Key α}
    (hkey : setting.key (q.atPoint point) = .ok key) :
    ∃ iterate, setting.state.iterateAt point = .ok iterate := by
  cases h <;> simp only [atPoint, Setting.key, Checked.bind_eq_ok] at hkey <;>
    exact hkey.imp fun _ hiterate => hiterate.1

end Quantity

variable [Scalar α] {k : Kind} {q : Quantity α k} {key : Key α} {kept : Kept α k}

/-! ### The invariant -/

/-- The cache of the trial point holds the result under the key, and the
cache of the current point holds nothing else under it. -/
structure Store.Secured (store : Store α) (q : Quantity α k) (key : Key α) (kept : Kept α k) :
    Prop where
  trial : store.held? (q.atPoint .trial).slot key = some kept
  current : ∀ found, store.held? (q.atPoint .current).slot key = some found → found = kept

namespace Store

/-- If the caches agree, a result of the trial point is secured. -/
theorem Agree.secured {store : Store α} (h : store.Agree) (hq : q.Reusable)
    (htrial : store.held? (q.atPoint .trial).slot key = some kept) : store.Secured q key kept :=
  ⟨htrial, fun _ hfound => h (hq.counterpart_slot .trial) htrial hfound⟩

/-- A result that no cache held before may be added. Under the key itself
there is none to add at the trial point, and at the current point only
the same one. -/
theorem Secured.remember {setting : Setting α} {before store : Store α} (hq : q.Reusable)
    (honly : ∀ other, setting.key (q.atPoint .trial) = .ok other → other = key)
    (hbefore : before.Secured q key kept) (h : store.Secured q key kept) {k' : Kind}
    {r : Quantity α k'} {key' : Key α} {result : Kept α k'} (hkey : setting.key r = .ok key')
    (hown : before.held? r.slot key' = none)
    (hother : ∀ found, before.heldByCounterpart? r.slot key' = some found → result = found) :
    (store.remember r.slot key' result).Secured q key kept := by
  -- The cache of the trial point is not written to: it holds the only key it could be given.
  have htrial : (⟨k, (q.atPoint .trial).slot⟩ : Sigma Slot) ≠ ⟨k', r.slot⟩ := by
    intro hsame
    obtain ⟨rfl, hslot⟩ := Sigma.mk.inj hsame
    obtain rfl := hq.eq_of_slot_eq (eq_of_heq hslot).symm
    obtain rfl := honly key' hkey
    exact nomatch hbefore.trial.symm.trans hown
  refine ⟨?_, fun found hfound => ?_⟩
  · rw [held?, cache_remember_of_ne store htrial]
    exact h.trial
  · by_cases hcurrent : (⟨k, (q.atPoint .current).slot⟩ : Sigma Slot) = ⟨k', r.slot⟩
    · obtain ⟨rfl, hslot⟩ := Sigma.mk.inj hcurrent
      obtain rfl := hq.eq_of_slot_eq (eq_of_heq hslot).symm
      rcases held?_of_remember hfound with ⟨rfl, rfl⟩ | hold
      · -- The new result was found at the trial point.
        apply hother
        rw [heldByCounterpart?, hq.counterpart_slot .current]
        exact hbefore.trial
      · exact h.current found hold
    · rw [held?, cache_remember_of_ne store hcurrent] at hfound
      exact h.current found hfound

end Store

namespace Memory

/-- If the answers to the parts of a formula keep the result secured, so
does the answer for the quantity. -/
theorem secured_of_answered {setting : Setting α} (hq : q.Reusable)
    (honly : ∀ other, setting.key (q.atPoint .trial) = .ok other → other = key) {k' : Kind}
    {r : Quantity α k'} {m m' : Memory α} {result : Checked α (Kept α k')}
    (h : Answered setting
      (fun _ _ m _ m' => m.store.Secured q key kept → m'.store.Secured q key kept) r m result m')
    (hsecured : m.store.Secured q key kept) : m'.store.Secured q key kept := by
  cases h with
  | refused => exact hsecured
  | held => exact hsecured
  | copied hkey hown hother =>
      refine .remember hq honly hsecured hsecured hkey hown fun found hfound => ?_
      exact Option.some.inj (hother.symm.trans hfound)
  | failed _ hformula =>
      exact hformula.keeps (P := fun store => store.Secured q key kept) id hsecured
  -- It was missing in both caches before the formula, so neither is the one of the secured result.
  | computed hmissing hformula =>
      have hafter := hformula.keeps (P := fun store => store.Secured q key kept) id hsecured
      refine .remember hq honly hsecured hafter hmissing.key_eq hmissing.own fun found hfound => ?_
      exact nomatch hfound.symm.trans hmissing.counterpart

/-- All answers keep the result secured. -/
theorem evaluate_secured {setting : Setting α} (hq : q.Reusable)
    (honly : ∀ other, setting.key (q.atPoint .trial) = .ok other → other = key) {k' : Kind}
    (r : Quantity α k') (m : Memory α) (hsecured : m.store.Secured q key kept) :
    ((evaluate setting r).run m).2.store.Secured q key kept :=
  evaluate_rule setting
    (motive := fun _ _ m _ m' => m.store.Secured q key kept → m'.store.Secured q key kept)
    (fun _ _ _ _ => secured_of_answered hq honly) r m hsecured

/-- A secured result is answered at the current point under its key,
without a call and without a correction. -/
theorem evaluate_of_secured {setting : Setting α} {m : Memory α} (hq : q.Reusable)
    (hkey : setting.key (q.atPoint .current) = .ok key) (hsecured : m.store.Secured q key kept) :
    ∃ m' events, (evaluate setting (q.atPoint .current)).run m = (.ok kept, m')
      ∧ m'.adjusted = m.adjusted ∧ m'.events = m.events ++ events
      ∧ ∀ callback inputs, .evaluated callback inputs ∉ events := by
  -- Either it was already fetched for the current point, or it is fetched from the trial point now.
  rcases hown : m.store.held? (q.atPoint .current).slot key with _ | found
  · have hother : m.store.heldByCounterpart? (q.atPoint .current).slot key = some kept := by
      rw [Store.heldByCounterpart?, hq.counterpart_slot .current]
      exact hsecured.trial
    refine ⟨_, [.missed _ key], evaluate_of_copied hkey hown hother, rfl, rfl, ?_⟩
    intro callback inputs hmem
    cases List.mem_singleton.1 hmem
  · obtain rfl := hsecured.current found hown
    refine ⟨m, [], evaluate_of_held hkey hown, rfl, (List.append_nil _).symm, ?_⟩
    exact fun _ _ => List.not_mem_nil

end Memory

/-! ### Runs -/

/-- Requests and new search directions leave the points, the barrier
parameter and the options in place and drop no result. -/
def Action.KeepsParameters : Action α → Prop
  | .ask _ | .change (.direction _) => True
  | _ => False

/-- The two settings differ in the search direction at most. -/
structure Setting.SameParameters (setting setting' : Setting α) : Prop where
  current : setting'.state.current = setting.state.current
  trial : setting'.state.trial = setting.state.trial
  mu : setting'.state.mu = setting.state.mu
  options : setting'.options = setting.options

namespace Setting.SameParameters

omit [Scalar α] in
/-- A setting has its own parameters. -/
theorem refl (setting : Setting α) : setting.SameParameters setting :=
  ⟨rfl, rfl, rfl, rfl⟩

omit [Scalar α] in
/-- Parameters stay over two changes if they stay over each. -/
theorem trans {setting setting' setting'' : Setting α} (h : setting.SameParameters setting')
    (h' : setting'.SameParameters setting'') : setting.SameParameters setting'' :=
  ⟨h'.current.trans h.current, h'.trial.trans h.trial, h'.mu.trans h.mu,
    h'.options.trans h.options⟩

/-- So do the keys. -/
theorem key_eq {setting setting' : Setting α} (h : setting.SameParameters setting')
    (hq : q.Reusable) (point : Point) :
    setting'.key (q.atPoint point) = setting.key (q.atPoint point) := by
  have hmu : setting'.mu = setting.mu := by
    rw [Setting.mu, h.mu, Setting.mu]
  exact hq.key_congr (State.iterateAt_congr h.current h.trial point) hmu h.options

end Setting.SameParameters

namespace Engine

/-- Requests and new search directions keep the result secured. -/
theorem Performed.secured {engine engine' : Engine α} {supply supply' : Supply} {action : Action α}
    {events : List (Event α)} (h : Performed engine supply action engine' events supply')
    (haction : action.KeepsParameters) (hq : q.Reusable)
    (honly : ∀ other, engine.setting.key (q.atPoint .trial) = .ok other → other = key)
    (hsecured : engine.store.Secured q key kept) :
    engine.setting.SameParameters engine'.setting ∧ engine'.store.Secured q key kept := by
  cases h with
  | refused => exact ⟨.refl _, hsecured⟩
  | answered =>
      exact ⟨.refl _, Memory.evaluate_secured hq honly _ (engine.memory supply) hsecured⟩
  -- Of the changes only a new direction keeps the points and the parameters.
  | changed hchange =>
      cases hchange with
      | direction => exact ⟨⟨rfl, rfl, rfl, rfl⟩, hsecured⟩
      | mu => exact haction.elim
      | trial => exact haction.elim
      | trialFromStep => exact haction.elim
      | acceptTrial => exact haction.elim
  | options => exact haction.elim
  | callbacks => exact haction.elim
  | cleared => exact haction.elim
  | reset => exact haction.elim

/-- So does a run of these. -/
theorem Run.secured {engine engine' : Engine α} {actions : List (Action α)}
    {events : List (Event α)} (h : Run engine actions events engine')
    (hactions : ∀ action ∈ actions, action.KeepsParameters) (hq : q.Reusable)
    (honly : ∀ other, engine.setting.key (q.atPoint .trial) = .ok other → other = key)
    (hsecured : engine.store.Secured q key kept) :
    engine.setting.SameParameters engine'.setting ∧ engine'.store.Secured q key kept := by
  induction h with
  | nil engine => exact ⟨.refl _, hsecured⟩
  | @cons engine _ action supply _ _ _ ih =>
      obtain ⟨haction, hrest⟩ := List.forall_mem_cons.1 hactions
      obtain ⟨hsame, hfirst⟩ :=
        (performed_perform engine action supply).secured haction hq honly hsecured
      -- The key at the trial point stays the same while the parameters do.
      have honly' : ∀ other,
          (engine.perform action supply).1.engine.setting.key (q.atPoint .trial) = .ok other →
            other = key := by
        rw [hsame.key_eq hq]
        exact honly
      obtain ⟨hsame', hlater⟩ := ih hrest honly' hfirst
      exact ⟨hsame.trans hsame', hlater⟩

/-- What was computed at a trial point is there when the point has been
accepted. Take a request that was answered at the trial point, then any
requests and new search directions, then the acceptance of the trial
point, and again any requests and new search directions. At the current
point the same request now gives the same result in the same storage. It
calls no function of the problem and corrects no slack. -/
theorem Reachable.answer_current_eq_trial {engine : Engine α} (h : engine.Reachable)
    (hq : q.Reusable) {supply : Supply}
    (hanswer : (engine.answer (.quantity (q.atPoint .trial)) supply).1.result = .ok kept)
    {before after : List (Action α)} (hbefore : ∀ action ∈ before, action.KeepsParameters)
    (hafter : ∀ action ∈ after, action.KeepsParameters) {events : List (Event α)}
    {engine' : Engine α}
    (hrun : Run (engine.answer (.quantity (q.atPoint .trial)) supply).1.engine
      (before ++ .change .acceptTrial :: after) events engine')
    (supply' : Supply) :
    let reply := (engine'.answer (.quantity (q.atPoint .current)) supply').1
    reply.result = .ok kept ∧ (∀ callback inputs, .evaluated callback inputs ∉ reply.events)
      ∧ reply.engine.adjusted = engine'.adjusted := by
  -- The answer at the trial point secures its result.
  rw [answer_of_resolved rfl] at hanswer hrun
  obtain ⟨-, hagree, hheld⟩ :=
    Memory.evaluate_agrees engine.setting (q.atPoint .trial) (engine.memory supply)
  obtain ⟨key, hkey, htrial⟩ := hheld kept hanswer
  have hsecured := (hagree h.agree).secured hq htrial
  -- It stays secured up to the acceptance.
  obtain ⟨middle, early, late, hearly, hlate, rfl⟩ := hrun.split
  have honly : ∀ other, engine.setting.key (q.atPoint .trial) = .ok other → other = key := by
    intro other hother
    exact Except.ok.inj (hother.symm.trans hkey)
  obtain ⟨hsame, hmiddle⟩ := hearly.secured hbefore hq honly hsecured
  have hkeyMiddle : middle.setting.key (q.atPoint .trial) = .ok key :=
    (hsame.key_eq hq .trial).trans hkey
  obtain ⟨iterate, hat⟩ := hq.iterateAt_of_key hkeyMiddle
  -- The acceptance turns the key at the trial point into the one at the current point.
  cases hlate with
  | cons _ supply₂ hlater =>
      rw [perform_acceptTrial (State.iterateAt_trial_eq_ok.1 hat)] at hlater
      obtain ⟨hsame', hlast⟩ := hlater.secured hafter hq
        (fun other hother => by
          obtain ⟨_, hnone⟩ := hq.iterateAt_of_key hother
          cases hnone)
        hmiddle
      have hkeyLast : engine'.setting.key (q.atPoint .current) = .ok key := by
        rw [hsame'.key_eq hq, ← hkeyMiddle]
        exact hq.key_congr hat.symm rfl rfl
      -- From here on the current point answers, by its own cache or by copying.
      obtain ⟨m', events', hevaluate, hadjusted, hevents, hsilent⟩ :=
        Memory.evaluate_of_secured (m := engine'.memory supply') hq hkeyLast hlast
      rw [answer_of_resolved rfl]
      simp only [hevaluate]
      rw [show (engine'.memory supply').events = [] from rfl, List.nil_append] at hevents
      rw [hevents]
      exact ⟨trivial, hsilent, hadjusted⟩

set_option maxRecDepth 20000 in
/-- The slack of the trial point is asked for before the acceptance and
keeps its storage. -/
theorem Reachable.answer_current_eq_trial_halfLine :
    ∃ events engine',
      Run (HalfLine.engine.answer (.quantity (.slack .trial .xLower)) ⟨33⟩).1.engine
        ([.ask (.quantity (.barrierObjective .current))] ++ .change .acceptTrial
          :: [.ask (.quantity .problemError)]) events engine'
      ∧ (engine'.answer (.quantity (.slack .current .xLower)) ⟨60⟩).1.result = .ok ⟨33, [1]⟩ := by
  have hanswer : (HalfLine.engine.answer (.quantity (.slack .trial .xLower)) ⟨33⟩).1.result
      = .ok ⟨33, [1]⟩ := rfl
  have hbefore : ∀ action ∈ [.ask (.quantity (.barrierObjective .current))],
      Action.KeepsParameters (α := Binary64) action := by simp [Action.KeepsParameters]
  have hafter : ∀ action ∈ [.ask (.quantity .problemError)],
      Action.KeepsParameters (α := Binary64) action := by simp [Action.KeepsParameters]
  obtain ⟨events, engine', hrun⟩ : ∃ events engine',
      Run (HalfLine.engine.answer (.quantity (.slack .trial .xLower)) ⟨33⟩).1.engine
        ([.ask (.quantity (.barrierObjective .current))] ++ .change .acceptTrial
          :: [.ask (.quantity .problemError)]) events engine' :=
    ⟨_, _, .cons _ ⟨40⟩ (.cons _ ⟨50⟩ (.cons _ ⟨50⟩ (.nil _)))⟩
  -- The slack of the trial point, asked for anew at the point that was accepted.
  obtain ⟨hresult, -⟩ := Reachable.answer_current_eq_trial HalfLine.session.reachable
    (.slack .current .xLower) hanswer hbefore hafter hrun ⟨60⟩
  exact ⟨events, engine', hrun, hresult⟩

end Engine

end InteriorPoint
