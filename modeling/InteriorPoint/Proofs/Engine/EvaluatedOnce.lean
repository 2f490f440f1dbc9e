import InteriorPoint.Proofs.Quantity.Requests
import InteriorPoint.Proofs.Session

/-!
# `InteriorPoint.Proofs.Engine.EvaluatedOnce`: one call for one set of inputs

While the points stay in place, and also across the acceptance of the
trial point, no function of the problem is called twice for the same
inputs. The store at the beginning may hold anything.

Every call is paid for by its result. A call happens only if the result
is not stored, it is stored afterwards, and it stays there
(`Thrifty`). It stays because the caches of a function are written to
under the current inputs only (`Setting.Holds`). The change of a point
that an acceptance brings leaves two cases: the result can still be
found, or no request has these inputs any more
(`Setting.holds_or_not_live`).

A function whose result has the wrong shape fails each time it is
called. So results of the right shape are presupposed
(`Setting.WellShaped`).
-/

set_option autoImplicit false

namespace InteriorPoint

variable {α : Type} [Scalar α] {setting setting' : Setting α} {callback : Callback}
  {inputs : List Tag}

/-! ### The caches of a function -/

/-- The caches of two quantities that stand for one function are the same
or those of the two points. -/
theorem Store.held?_eq_none_of_callback {store : Store α} {key : Key α} {k k' : Kind}
    {q : Quantity α k} {q' : Quantity α k'} (h : q.callback? = some callback)
    (h' : q'.callback? = some callback) (hown : store.held? q.slot key = none)
    (hother : store.heldByCounterpart? q.slot key = none) : store.held? q'.slot key = none := by
  cases q <;> cases h <;> cases q' <;> cases h'
  case objective.refl.objective.refl p p' =>
    cases p <;> cases p' <;> first | exact hown | exact hother
  case constraint.refl.constraint.refl group p p' =>
    cases p <;> cases p' <;> first | exact hown | exact hother
  all_goals exact hown

omit [Scalar α] in
/-- A quantity that stands for a function has its caches to itself. -/
theorem Quantity.eq_of_slot_eq {k : Kind} {q q' : Quantity α k} (h' : q'.callback? = some callback)
    (hslot : q.slot = q'.slot) : q = q' := by
  cases q' <;> cases h' <;> cases q <;> cases hslot <;> rfl

namespace Setting

/-- A request for the function has these inputs. -/
def Live (setting : Setting α) (callback : Callback) (inputs : List Tag) : Prop :=
  ∃ (k : Kind) (q : Quantity α k),
    q.callback? = some callback ∧ setting.key q = .ok (.ofTags inputs)

/-- The result of the function for these inputs is stored, in a cache that
no request uses for other inputs. -/
def Holds (setting : Setting α) (store : Store α) (callback : Callback) (inputs : List Tag) :
    Prop :=
  ∃ (k : Kind) (q : Quantity α k), q.callback? = some callback
    ∧ (∀ key, setting.key q = .ok key → key = .ofTags inputs)
    ∧ ∃ kept, store.held? q.slot (.ofTags inputs) = some kept

/-- Storing a result under the key of its quantity keeps what is held. -/
theorem Holds.remember {store : Store α} (h : setting.Holds store callback inputs) {k : Kind}
    {q : Quantity α k} {key : Key α} (hkey : setting.key q = .ok key) (kept : Kept α k) :
    setting.Holds (store.remember q.slot key kept) callback inputs := by
  obtain ⟨k', q', hcallback, honly, held, hheld⟩ := h
  by_cases hsame : (⟨k', q'.slot⟩ : Sigma Slot) = ⟨k, q.slot⟩
  · -- The same cache belongs to the same quantity, whose key is the one that is held.
    obtain ⟨rfl, hslot⟩ := Sigma.mk.inj hsame
    obtain rfl := Quantity.eq_of_slot_eq hcallback (eq_of_heq hslot).symm
    obtain rfl := honly key hkey
    exact ⟨k', q, hcallback, honly, kept, Store.held?_remember_self _ _ _ _⟩
  · refine ⟨k', q', hcallback, honly, held, ?_⟩
    rw [Store.held?, Store.cache_remember_of_ne store hsame]
    exact hheld

/-- A result that the caches of a request lack is held nowhere. -/
theorem not_holds_of_missing {store : Store α} {k : Kind} {q : Quantity α k}
    (hcallback : q.callback? = some callback)
    (h : Memory.Missing setting q (.ofTags inputs) store) :
    ¬ setting.Holds store callback inputs := by
  rintro ⟨k', q', hcallback', -, kept, hheld⟩
  rw [Store.held?_eq_none_of_callback hcallback hcallback' h.own h.counterpart] at hheld
  cases hheld

/-- The two settings have the same points and the same problem. They may
differ in the barrier parameter and the search direction. -/
structure SamePoints (setting setting' : Setting α) : Prop where
  problem : setting'.problem = setting.problem
  dims : setting'.dims = setting.dims
  current : setting'.state.current = setting.state.current
  trial : setting'.state.trial = setting.state.trial

namespace SamePoints

omit [Scalar α] in
/-- A setting has its own points. -/
theorem refl (setting : Setting α) : setting.SamePoints setting :=
  ⟨rfl, rfl, rfl, rfl⟩

omit [Scalar α] in
/-- The points stay over two changes if they stay over each. -/
theorem trans {setting'' : Setting α} (h : setting.SamePoints setting')
    (h' : setting'.SamePoints setting'') : setting.SamePoints setting'' :=
  ⟨h'.problem.trans h.problem, h'.dims.trans h.dims, h'.current.trans h.current,
    h'.trial.trans h.trial⟩

/-- The inputs of a function are read off the points, so its key is the
same. -/
theorem key_eq (h : setting.SamePoints setting') {k : Kind} {q : Quantity α k}
    (hcallback : q.callback? = some callback) : setting'.key q = setting.key q := by
  rw [Quantity.key_of_callback hcallback, Quantity.key_of_callback hcallback,
    State.iterateAt_congr h.current h.trial]

/-- So are the requests for the function. -/
theorem live_iff (h : setting.SamePoints setting') :
    setting'.Live callback inputs ↔ setting.Live callback inputs := by
  refine exists_congr fun k => exists_congr fun q => and_congr_right fun hcallback => ?_
  rw [h.key_eq hcallback]

/-- And so is what counts as held. -/
theorem holds_iff (h : setting.SamePoints setting') {store : Store α} :
    setting'.Holds store callback inputs ↔ setting.Holds store callback inputs := by
  refine exists_congr fun k => exists_congr fun q => and_congr_right fun hcallback => ?_
  rw [h.key_eq hcallback]

omit [Scalar α] in
/-- The shapes of results depend on the problem and its dimensions only.
-/
theorem wellShaped (h : setting.SamePoints setting') (hshape : setting.WellShaped) :
    setting'.WellShaped := by
  obtain ⟨hgradient, hconstraint, hjacobian, hhessian⟩ := hshape
  have hgroup : setting'.groupSize = setting.groupSize := by
    funext group
    cases group <;> simp only [groupSize, h.dims]
  -- The two settings agree in all that the four conditions mention.
  constructor <;> rw [h.problem, h.dims] <;> try rw [hgroup]
  · exact hgradient
  · exact hconstraint
  · exact hjacobian
  · exact hhessian

end SamePoints

end Setting

/-! ### Calls are paid for -/

/-- How often the events call the function for the inputs. -/
def calls (events : List (Event α)) (callback : Callback) (inputs : List Tag) : Nat :=
  events.count (.evaluated callback inputs)

/-- The calls of two series of events add up. -/
theorem calls_append (events events' : List (Event α)) :
    calls (events ++ events') callback inputs
      = calls events callback inputs + calls events' callback inputs :=
  List.count_append

/-- Events that do not call the function count for nothing. -/
theorem calls_eq_zero {events : List (Event α)}
    (h : ∀ event ∈ events, event ≠ .evaluated callback inputs) :
    calls events callback inputs = 0 :=
  List.count_eq_zero.2 fun hmem => h _ hmem rfl

/-- From one store to another, with these events on the way, the function
was called at most once for the inputs, and only if its result was needed
and not held before. Then it is held afterwards. -/
structure Thrifty (setting : Setting α) (callback : Callback) (inputs : List Tag)
    (store : Store α) (events : List (Event α)) (store' : Store α) : Prop where
  keeps : setting.Holds store callback inputs → setting.Holds store' callback inputs
  paid : calls events callback inputs = 0
    ∨ calls events callback inputs = 1 ∧ setting.Live callback inputs
      ∧ ¬ setting.Holds store callback inputs ∧ setting.Holds store' callback inputs

namespace Thrifty

/-- Without calls it is enough that what was held is held. -/
theorem of_silent {store store' : Store α} {events : List (Event α)}
    (hkeeps : setting.Holds store callback inputs → setting.Holds store' callback inputs)
    (h : ∀ event ∈ events, event ≠ .evaluated callback inputs) :
    Thrifty setting callback inputs store events store' :=
  ⟨hkeeps, Or.inl (calls_eq_zero h)⟩

/-- Nothing happens, nothing is called. -/
theorem nil (store : Store α) : Thrifty setting callback inputs store [] store :=
  of_silent id fun _ hmem => absurd hmem List.not_mem_nil

/-- One after the other, two thrifty series are thrifty. -/
theorem append {store store' store'' : Store α} {events events' : List (Event α)}
    (h : Thrifty setting callback inputs store events store')
    (h' : Thrifty setting callback inputs store' events' store'') :
    Thrifty setting callback inputs store (events ++ events') store'' := by
  refine ⟨h'.keeps ∘ h.keeps, ?_⟩
  rw [calls_append]
  rcases h.paid with hnone | ⟨hone, hlive, hnew, hheld⟩
  · rcases h'.paid with hnone' | ⟨hone', hlive, hnew, hheld⟩
    · exact Or.inl (by rw [hnone, hnone'])
    · exact Or.inr ⟨by rw [hnone, hone'], hlive, fun hold => hnew (h.keeps hold), hheld⟩
  · -- The second part finds the result of the first.
    rcases h'.paid with hnone' | ⟨-, -, hnew', -⟩
    · exact Or.inr ⟨by rw [hone, hnone'], hlive, hnew, h'.keeps hheld⟩
    · exact absurd hheld hnew'

/-- Only the points matter. -/
theorem samePoints (hsame : setting.SamePoints setting') {store store' : Store α}
    {events : List (Event α)} (h : Thrifty setting' callback inputs store events store') :
    Thrifty setting callback inputs store events store' := by
  obtain ⟨hkeeps, hpaid⟩ := h
  rw [hsame.holds_iff, hsame.holds_iff] at hkeeps
  rw [hsame.live_iff, hsame.holds_iff, hsame.holds_iff] at hpaid
  exact ⟨hkeeps, hpaid⟩

end Thrifty

namespace Memory

/-- The same for what happens to a memory. -/
def Pays (setting : Setting α) (callback : Callback) (inputs : List Tag) (m m' : Memory α) : Prop :=
  ∃ events, m'.events = m.events ++ events
    ∧ Thrifty setting callback inputs m.store events m'.store

namespace Pays

/-- Nothing happens. -/
theorem refl (m : Memory α) : Pays setting callback inputs m m :=
  ⟨[], (List.append_nil _).symm, .nil _⟩

/-- What happens in two parts. -/
theorem trans {m m' m'' : Memory α} (h : Pays setting callback inputs m m')
    (h' : Pays setting callback inputs m' m'') : Pays setting callback inputs m m'' := by
  obtain ⟨events, hevents, hthrifty⟩ := h
  obtain ⟨events', hevents', hthrifty'⟩ := h'
  exact ⟨events ++ events', by rw [hevents', hevents, List.append_assoc], hthrifty.append hthrifty'⟩

/-- Any event but a call of the function may be reported. -/
theorem record (m : Memory α) {event : Event α} (hevent : event ≠ .evaluated callback inputs) :
    Pays setting callback inputs m (m.record event) :=
  ⟨[event], rfl, .of_silent id (List.forall_mem_singleton.2 hevent)⟩

/-- A result may be stored under the key of its quantity. -/
theorem remember (m : Memory α) {k : Kind} {q : Quantity α k} {key : Key α}
    (hkey : setting.key q = .ok key) (kept : Kept α k) :
    Pays setting callback inputs m (m.remember q.slot key kept) :=
  ⟨[], (List.append_nil _).symm, .of_silent (fun hheld => hheld.remember hkey kept)
    fun _ hmem => absurd hmem List.not_mem_nil⟩

/-- Drawing an address touches neither the store nor the record. -/
theorem drawn {m m' : Memory α} (h : Pays setting callback inputs m m') :
    Pays setting callback inputs m m'.drawn :=
  h

end Pays

/-- A program that does not call the function itself pays if its parts do.
-/
theorem Executes.pays {bound : Nat} {β : Type} {p : Program α bound β} {m m' : Memory α}
    {r : Checked α β} {asks : {k : Kind} → Quantity α k → Prop} {returns : β → Prop}
    (hp : p.Within asks (fun event => event ≠ .evaluated callback inputs) returns)
    (h : Executes (fun _ _ m _ m' => Pays setting callback inputs m m') p m r m') :
    Pays setting callback inputs m m' := by
  induction h with
  | done => exact .refl _
  | fail => exact .refl _
  | report _ ih => exact (Pays.record _ hp.1).trans (ih hp.2)
  | ask hpart _ ih => exact hpart.trans (ih (hp.2 _))
  | refused hpart => exact hpart

/-- A call and the result that it leaves. -/
theorem pays_of_call (m : Memory α) {k : Kind} {q : Quantity α k} {key : Key α} {called : Callback}
    {tags : List Tag} (hcallback : q.callback? = some called) (hkey : key = .ofTags tags)
    (hmissing : Missing setting q key m.store) (kept : Kept α k) :
    Pays setting callback inputs m
      (((m.record (.missed q.slot.name key)).record (.evaluated called tags)).remember q.slot key
        kept) := by
  subst hkey
  have hmissed : Pays setting callback inputs m (m.record (.missed q.slot.name (.ofTags tags))) :=
    .record m (by simp)
  by_cases hsame : Event.evaluated (α := α) called tags = .evaluated callback inputs
  · -- This is the call that is counted, and what it leaves pays for it.
    cases hsame
    refine ⟨[.missed q.slot.name (.ofTags inputs), .evaluated callback inputs],
      List.append_assoc _ _ _, fun hheld => hheld.remember hmissing.key_eq kept, Or.inr ?_⟩
    refine ⟨by simp [calls], ⟨k, q, hcallback, hmissing.key_eq⟩,
      Setting.not_holds_of_missing hcallback hmissing, k, q, hcallback, ?_, kept,
      Store.held?_remember_self _ _ _ _⟩
    intro key' hkey'
    rw [hmissing.key_eq] at hkey'
    exact (Except.ok.inj hkey').symm
  · exact (hmissed.trans (.record _ hsame)).trans (.remember _ hmissing.key_eq kept)

/-- If the answers to the parts of a formula pay, so does the answer for
the quantity. -/
theorem pays_of_answered (hshape : setting.WellShaped) (hvalid : setting.state.Valid) {k : Kind}
    {q : Quantity α k} {m m' : Memory α} {r : Checked α (Kept α k)}
    (h : Answered setting (fun _ _ m _ m' => Pays setting callback inputs m m') q m r m') :
    Pays setting callback inputs m m' := by
  have hmissed : ∀ key, Pays setting callback inputs m (m.record (.missed q.slot.name key)) :=
    fun key => .record m (by simp)
  -- Quantities that stand for no function make no call of their own.
  have hsilent : q.callback? = none → (q.formula setting).Within setting.Passes
      (fun event => event ≠ .evaluated callback inputs) fun _ => True := fun hnone =>
    (q.formula_silent hnone).mono (fun _ h => h) (fun _ h => h callback inputs) fun _ h => h
  cases h with
  | refused => exact .refl m
  | held => exact .refl m
  | copied hkey _ _ => exact (hmissed _).trans (.remember _ hkey _)
  | failed hmissing hformula =>
      rcases hcallback : q.callback? with _ | called
      · exact (hmissed _).trans (hformula.pays (hsilent hcallback))
      · -- A call does not fail.
        obtain ⟨tags, value, -, hcall⟩ :=
          q.formula_of_callback hshape hvalid hcallback hmissing.key_eq
        rw [hcall] at hformula
        cases hformula with
        | report hdone => cases hdone
  | computed hmissing hformula =>
      rcases hcallback : q.callback? with _ | called
      · have hbefore := (hmissed _).trans (hformula.pays (hsilent hcallback))
        exact hbefore.drawn.trans (.remember _ hmissing.key_eq _)
      · obtain ⟨tags, value, hkey, hcall⟩ :=
          q.formula_of_callback hshape hvalid hcallback hmissing.key_eq
        rw [hcall] at hformula
        cases hformula with
        | report hdone =>
            cases hdone
            exact pays_of_call m hcallback hkey hmissing _

/-- All answers pay. -/
theorem evaluate_pays (callback : Callback) (inputs : List Tag) (hshape : setting.WellShaped)
    (hvalid : setting.state.Valid) {k : Kind} (q : Quantity α k) (m : Memory α) :
    Pays setting callback inputs m ((evaluate setting q).run m).2 :=
  evaluate_rule setting (motive := fun _ _ m _ m' => Pays setting callback inputs m m')
    (fun _ _ _ _ => pays_of_answered hshape hvalid) q m

end Memory

/-! ### Runs -/

/-- Without a trial point the requests for a function all have the same
inputs. So a result that was held either can be found or is not asked
for. -/
theorem Setting.holds_or_not_live {store : Store α} (h : setting.Holds store callback inputs)
    (htrial : setting'.state.trial = none) :
    setting'.Holds store callback inputs ∨ ¬ setting'.Live callback inputs := by
  obtain ⟨k, q, hcallback, -, hheld⟩ := h
  -- Only the current point is left, so every key lists its inputs.
  have hkey : ∀ {k : Kind} {q : Quantity α k} {key : Key α}, q.callback? = some callback →
      setting'.key q = .ok key → key = .ofTags (callback.inputs setting'.state.current) := by
    intro k q key hcallback hkey
    rw [Quantity.key_of_callback hcallback, Checked.bind_eq_ok] at hkey
    obtain ⟨iterate, hat, hinputs⟩ := hkey
    rw [Checked.pure_eq_ok] at hinputs
    rw [← hinputs]
    rcases hpoint : q.point <;> rw [hpoint] at hat
    · cases hat
      rfl
    · rw [State.iterateAt_trial_eq_ok, htrial] at hat
      cases hat
  by_cases hlive : setting'.Live callback inputs
  · obtain ⟨k', q', hcallback', hkey'⟩ := hlive
    refine Or.inl ⟨k, q, hcallback, fun key hq => ?_, hheld⟩
    rw [hkey hcallback hq, hkey hcallback' hkey']
  · exact Or.inr hlive

/-- Requests, a new barrier parameter and a new search direction leave
both points in place and drop no result. -/
def Action.KeepsPoints : Action α → Prop
  | .ask _ | .change (.mu _) | .change (.direction _) => True
  | _ => False

namespace Engine

/-- As long as both points stay in place, whatever an engine does is
thrifty. -/
theorem Performed.thrifty (callback : Callback) (inputs : List Tag) {engine engine' : Engine α}
    {supply supply' : Supply} {action : Action α} {events : List (Event α)}
    (h : Performed engine supply action engine' events supply') (haction : action.KeepsPoints)
    (hshape : engine.setting.WellShaped) (hvalid : engine.setting.state.Valid) :
    engine.setting.SamePoints engine'.setting
      ∧ Thrifty engine.setting callback inputs engine.store events engine'.store := by
  cases h with
  | refused => exact ⟨.refl _, .nil _⟩
  | @answered _ _ q =>
      obtain ⟨events, hevents, hthrifty⟩ :=
        Memory.evaluate_pays callback inputs hshape hvalid q (engine.memory supply)
      rw [show (engine.memory supply).events = [] from rfl, List.nil_append] at hevents
      rw [hevents]
      exact ⟨.refl _, hthrifty⟩
  | changed hchange hevents =>
      -- A change reports no call of a function.
      have hsilent : ∀ event ∈ events, event ≠ .evaluated callback inputs := by
        intro event hmem
        rw [hevents event hmem]
        simp
      cases hchange with
      | mu => exact ⟨⟨rfl, rfl, rfl, rfl⟩, .of_silent id hsilent⟩
      | direction => exact ⟨⟨rfl, rfl, rfl, rfl⟩, .of_silent id hsilent⟩
      | trial => exact haction.elim
      | trialFromStep => exact haction.elim
      | acceptTrial => exact haction.elim
  | options => exact haction.elim
  | callbacks => exact haction.elim
  | cleared => exact haction.elim
  | reset => exact haction.elim

/-- So is a run of such operations. -/
theorem Run.thrifty (callback : Callback) (inputs : List Tag) {engine engine' : Engine α}
    {actions : List (Action α)} {events : List (Event α)} (h : Run engine actions events engine')
    (hactions : ∀ action ∈ actions, action.KeepsPoints) (hshape : engine.setting.WellShaped)
    (hwell : engine.WellFormed) :
    engine.setting.SamePoints engine'.setting
      ∧ Thrifty engine.setting callback inputs engine.store events engine'.store
      ∧ engine'.WellFormed := by
  induction h with
  | nil engine => exact ⟨.refl _, .nil _, hwell⟩
  | @cons engine _ action supply _ _ _ ih =>
      have hperformed := performed_perform engine action supply
      obtain ⟨haction, hrest⟩ := List.forall_mem_cons.1 hactions
      obtain ⟨hsame, hfirst⟩ := hperformed.thrifty callback inputs haction hshape hwell.valid
      obtain ⟨hsame', hlater, hwell'⟩ :=
        ih hrest (hsame.wellShaped hshape) (hperformed.wellFormed hwell)
      -- The later operations speak of a later setting, which has the same points.
      exact ⟨hsame.trans hsame', hfirst.append (hlater.samePoints hsame), hwell'⟩

/-- Accepting the trial point calls nothing. What was held before is held
afterwards, unless no request has these inputs any more. -/
theorem Performed.accept (callback : Callback) (inputs : List Tag) {engine engine' : Engine α}
    {supply supply' : Supply} {events : List (Event α)}
    (h : Performed engine supply (.change .acceptTrial) engine' events supply')
    (hshape : engine.setting.WellShaped) :
    engine'.setting.WellShaped ∧ calls events callback inputs = 0
      ∧ (engine.setting.Holds engine.store callback inputs →
          engine'.setting.Holds engine'.store callback inputs
            ∨ ¬ engine'.setting.Live callback inputs) := by
  cases h with
  | refused => exact ⟨hshape, rfl, Or.inl⟩
  | changed hchange hevents =>
      refine ⟨?_, calls_eq_zero fun event hmem => ?_, fun hheld => ?_⟩
      · -- The former trial point is the only one left.
        cases hchange
        exact ⟨hshape.gradient, hshape.constraint, hshape.jacobian, hshape.hessian⟩
      · rw [hevents event hmem]
        simp
      · cases hchange
        exact Setting.holds_or_not_live hheld rfl

/-- No function of the problem is called twice for the same inputs, while
requests, new barrier parameters and new search directions follow one
another in any order, with at most one acceptance of the trial point
among them. The engine may be in any state, with anything in its store.

The inputs are the identity of `x`, and for the Hessian those of `x` and
both multipliers (`Callback.inputs`). -/
theorem Reachable.calls_le_one {engine : Engine α} (h : engine.Reachable)
    (hshape : engine.setting.WellShaped) (store : Store α) {before accept after : List (Action α)}
    (hbefore : ∀ action ∈ before, action.KeepsPoints)
    (haccept : accept = [] ∨ accept = [.change .acceptTrial])
    (hafter : ∀ action ∈ after, action.KeepsPoints) {events : List (Event α)} {engine' : Engine α}
    (hrun : Run { engine with store } (before ++ accept ++ after) events engine')
    (callback : Callback) (inputs : List Tag) :
    events.count (.evaluated callback inputs) ≤ 1 := by
  change calls events callback inputs ≤ 1
  obtain ⟨middle, early, late, hearly, hlate, rfl⟩ := hrun.split
  obtain ⟨accepting, first, second, hfirst, haccepted, rfl⟩ := hearly.split
  have hwell : WellFormed { engine with store } := ⟨h.wellFormed.valid, h.wellFormed.new_eq_ok⟩
  obtain ⟨hsame, hpays, hwell₁⟩ := hfirst.thrifty callback inputs hbefore hshape hwell
  have hshape₁ := hsame.wellShaped hshape
  -- What the acceptance does, whether or not there is one.
  obtain ⟨hshape₂, hwell₂, hsilent, hstays⟩ : middle.setting.WellShaped ∧ middle.WellFormed
      ∧ calls second callback inputs = 0
      ∧ (accepting.setting.Holds accepting.store callback inputs →
          middle.setting.Holds middle.store callback inputs
            ∨ ¬ middle.setting.Live callback inputs) := by
    rcases haccept with rfl | rfl
    · cases haccepted
      exact ⟨hshape₁, hwell₁, rfl, Or.inl⟩
    · cases haccepted with
      | cons _ supply hnil =>
          cases hnil
          have hperformed := performed_perform accepting (.change .acceptTrial) supply
          obtain ⟨hshaped, hnone, hstays⟩ := hperformed.accept callback inputs hshape₁
          rw [List.append_nil]
          exact ⟨hshaped, hperformed.wellFormed hwell₁, hnone, hstays⟩
  obtain ⟨-, hpays', -⟩ := hlate.thrifty callback inputs hafter hshape₂ hwell₂
  rw [calls_append, calls_append, hsilent]
  rcases hpays.paid with hnone | ⟨hone, -, -, hheld⟩
  · rcases hpays'.paid with hnone' | ⟨hone', -⟩ <;> omega
  · -- A call before the acceptance leaves nothing to call afterwards.
    rcases hpays'.paid with hnone' | ⟨-, hlive, hnew, -⟩
    · omega
    · rcases hstays ((hsame.holds_iff).2 hheld) with hheld' | hdead
      · exact absurd hheld' hnew
      · exact absurd hlive hdead

/-- The objective is asked for at the trial point, and as a part of the
barrier objective once that point is the current one. -/
theorem Reachable.calls_le_one_halfLine :
    ∃ events engine',
      Run HalfLine.engine
        ([.ask (.quantity (.objective .trial)), .change (.mu 0)] ++ [.change .acceptTrial]
          ++ [.ask (.quantity (.barrierObjective .current))]) events engine'
      ∧ events.count (.evaluated .objective [⟨5⟩]) ≤ 1 := by
  have hshape : HalfLine.engine.setting.WellShaped :=
    { gradient := fun x hx => (List.length_map _).trans hx
      constraint := fun group _ _ => by cases group <;> rfl
      jacobian := fun group x hx => ⟨by cases group <;> rfl, hx⟩
      hessian := fun x _ _ _ hx _ _ =>
        ⟨(List.length_map _).trans (List.length_range.trans hx), hx⟩ }
  have hbefore : ∀ action ∈ [.ask (.quantity (.objective .trial)), .change (.mu 0)],
      Action.KeepsPoints (α := Binary64) action := by simp [Action.KeepsPoints]
  have hafter : ∀ action ∈ [.ask (.quantity (.barrierObjective .current))],
      Action.KeepsPoints (α := Binary64) action := by simp [Action.KeepsPoints]
  -- The objective is asked for at the trial point, and again after the acceptance.
  obtain ⟨events, engine', hrun⟩ : ∃ events engine', Run HalfLine.engine
      ([.ask (.quantity (.objective .trial)), .change (.mu 0)] ++ [.change .acceptTrial]
        ++ [.ask (.quantity (.barrierObjective .current))]) events engine' :=
    ⟨_, _, .cons _ ⟨33⟩ (.cons _ ⟨40⟩ (.cons _ ⟨50⟩ (.cons _ ⟨60⟩ (.nil _))))⟩
  exact ⟨events, engine', hrun, Reachable.calls_le_one HalfLine.session.reachable hshape {} hbefore
    (Or.inr rfl) hafter hrun .objective [⟨5⟩]⟩

end Engine

end InteriorPoint
