import InteriorPoint.Proofs.Quantity.Requests
import InteriorPoint.Proofs.Scalar.Unpacked
import InteriorPoint.Proofs.Session

/-!
# `InteriorPoint.Proofs.Engine.Transparency`: stored results are the values

In a session, a request is answered with the value that the problem, the
state and the options of that moment give, whatever was asked and
changed before. An engine that was just set up for the same problem,
state and options answers the same.

One thing may differ. A result may have been stored while the barrier
parameter was a zero of the other sign, and where this shows, in four of
the quantities, a zero of the answer may have the other sign
(`Slot.Alike`).

The invariant is `Explained`: every stored result may stand for the value
of some quantity of its slot in some setting, under the key it is stored
under. The setting may be one of the past, with another state. Where the
key comes up again, `Setting.value_alike_of_key_eq` says that the value
there may stand for the old one.

The step of an evaluation is proved for a target that need not be the
setting itself, and with errors that may be set aside
(`Memory.standsFor_of_answered`). Here the target is the setting and no
error is set aside.
-/

set_option autoImplicit false

namespace InteriorPoint

variable {α : Type} [Scalar α]

/-- A stored result may stand for the value of a quantity of its slot, in a
setting with the same problem, options and sizes and with points of the
pool. -/
def Explained (pool : Pool α) (setting : Setting α) ⦃k : Kind⦄ (slot : Slot k) (key : Key α)
    (kept : Kept α k) : Prop :=
  ∃ (source : Setting α) (quantity : Quantity α k) (value : Carrier α k),
    source.SameFrame setting ∧ source.state.Known pool ∧ quantity.Known pool
      ∧ quantity.slot = slot ∧ source.key quantity = .ok key
      ∧ source.value quantity = .ok value ∧ slot.Alike kept.value value

/-- Points that are made later explain no less. -/
theorem Explained.mono {pool larger : Pool α} (hsub : pool.Sub larger)
    {setting setting' : Setting α}
    (hframe : setting.SameFrame setting') {k : Kind} {slot : Slot k} {key : Key α}
    {kept : Kept α k} (h : Explained pool setting slot key kept) :
    Explained larger setting' slot key kept := by
  obtain ⟨source, quantity, value, hsource, hstate, hquantity, hrest⟩ := h
  exact ⟨source, quantity, value, hsource.trans hframe, hstate.mono hsub, hquantity.mono hsub,
    hrest⟩

/-- What may stand for the value of a quantity explains itself. -/
theorem Explained.of_value {pool : Pool α} {setting : Setting α} (hstate : setting.state.Known pool)
    {k : Kind} {quantity : Quantity α k} (hquantity : quantity.Known pool) {key : Key α}
    (hkey : setting.key quantity = .ok key) {kept : Kept α k}
    (h : Checked.Rel quantity.slot.Alike (.ok kept.value) (setting.value quantity)) :
    Explained pool setting quantity.slot key kept := by
  obtain ⟨value, hvalue, halike⟩ := h.exists_ok
  exact ⟨setting, quantity, value, .refl setting, hstate, hquantity, rfl, hkey, hvalue, halike⟩

omit [Scalar α] in
/-- The multipliers of the current point are known. -/
theorem Setting.Passes.known {pool : Pool α} (hpool : pool.Coherent) {setting : Setting α}
    (hstate : setting.state.Known pool) {k : Kind} {part : Quantity α k}
    (h : setting.Passes part) : part.Known pool := by
  intro v hv
  have hcurrent := hpool.component_mem _ hstate.current
  rcases h v hv with rfl | rfl
  · exact hcurrent .yC
  · exact hcurrent .yD

/-- A result found under the key of a quantity, in its cache or in that of
the other point, may stand for its value. -/
theorem Explained.alike_value [LawfulComparison α] [LawfulZero α] {pool : Pool α}
    (hpool : pool.Coherent) {setting : Setting α} (hstate : setting.state.Known pool) {k : Kind}
    {quantity : Quantity α k} (hquantity : quantity.Known pool) {slot : Slot k} {key : Key α}
    {kept : Kept α k}
    (hslot : quantity.slot = slot ∨ quantity.slot.counterpart? = some slot)
    (hkey : setting.key quantity = .ok key) (h : Explained pool setting slot key kept) :
    Checked.Rel quantity.slot.Alike (.ok kept.value) (setting.value quantity) := by
  obtain ⟨source, other, value, hsource, hother, hknown, rfl, hsourceKey, hvalue, halike⟩ := h
  have hkept : quantity.slot.Alike kept.value value := by
    rcases hslot with hslot | hslot
    · rw [hslot]
      exact halike
    · exact halike.of_counterpart hslot
  have hsame := Setting.value_alike_of_key_eq hpool hsource.symm hstate hother hquantity hknown
    hslot hkey hsourceKey
  rw [hvalue] at hsame
  -- Both values are those of one key, the stored one in its own setting.
  exact Checked.Rel.trans (.ok hkept) hsame.symm fun _ _ _ h h' => h.trans h'.symm

namespace Memory

/-- An answer is measured against a setting `target`, which need not be the
one that is evaluated: what is stored stays explained there, and the answer
may stand for the value there. Some errors may be set aside, and after one
of these nothing is said about the value. -/
def StandsFor (pool : Pool α) (target : Setting α) (aside : Error α → Prop) : Answers α :=
  fun _ quantity m r m' => quantity.Known pool → m.store.All (Explained pool target) →
    m'.store.All (Explained pool target)
      ∧ (Checked.Rel quantity.slot.Alike (r.map Shared.value) (target.value quantity)
        ∨ ∃ error, r = .error error ∧ aside error)

/-- What an answer is measured against where the setting is its own target
and no error is set aside. -/
def Transparent (pool : Pool α) (setting : Setting α) : Answers α :=
  fun _ quantity m r m' => quantity.Known pool → m.store.All (Explained pool setting) →
    m'.store.All (Explained pool setting)
      ∧ Checked.Rel quantity.slot.Alike (r.map Shared.value) (setting.value quantity)

/-- No error is set aside. -/
theorem transparent_iff {pool : Pool α} {setting : Setting α} {k : Kind} {quantity : Quantity α k}
    {m m' : Memory α} {r : Checked α (Kept α k)} :
    Transparent pool setting quantity m r m'
      ↔ StandsFor pool setting (fun _ => False) quantity m r m' := by
  simp only [Transparent, StandsFor, and_false, exists_false, or_false]

/-- A program whose requests are answered with what may stand for the
values gives what a program like it gives without caches, or fails with an
error that is set aside. By induction on the execution, along which the two
programs stay alike. -/
theorem executes_standsFor {pool : Pool α} (hpool : pool.Coherent) {setting target : Setting α}
    (hstate : setting.state.Known pool) {aside : Error α → Prop} {bound : Nat} {β γ : Type}
    {R : β → γ → Prop} {p : Program α bound β} {p' : Program α bound γ} {m m' : Memory α}
    {r : Checked α β} {reports : Event α → Prop} {returns : β → Prop}
    (hp : p.Within setting.Passes reports returns) (halike : p.Alike R p')
    (h : Executes (StandsFor pool target aside) p m r m')
    (hsound : m.store.All (Explained pool target)) :
    m'.store.All (Explained pool target)
      ∧ (Checked.Rel R r (target.eval p') ∨ ∃ error, r = .error error ∧ aside error) := by
  induction h generalizing p' with
  | done =>
      cases halike with
      | done h => exact ⟨hsound, Or.inl (.ok h)⟩
  | fail =>
      cases halike with
      | fail => exact ⟨hsound, Or.inl (.error _)⟩
  | report _ ih =>
      cases halike with
      | report event h =>
          -- Evaluation skips the report on the right as well.
          have hrest := ih hp.2 h hsound
          exact hrest
  -- A part that was answered did not fail, so the answer is alike to its value and the programs
  -- go on alike.
  | @ask _ part _ next _ _ _ kept _ hpart _ ih =>
      cases halike with
      | ask _ _ hnext =>
          obtain ⟨hmiddle, hvalue | ⟨_, herror, -⟩⟩ := hpart (hp.1.known hpool hstate) hsound
          · obtain ⟨value, hvalue, hkept⟩ := hvalue.exists_ok
            rw [Setting.eval_ask, hvalue]
            exact ih (hp.2 kept.value) (hnext kept.value value hkept) hmiddle
          · cases herror
  -- The error of a part is the error of the whole, set aside or not.
  | @refused _ part _ next _ _ error hpart =>
      cases halike with
      | ask =>
          obtain ⟨hafter, hvalue | ⟨_, herror, haside⟩⟩ := hpart (hp.1.known hpool hstate) hsound
          · rw [Setting.eval_ask, hvalue.eq_error]
            exact ⟨hafter, Or.inl (.error error)⟩
          · cases herror
            exact ⟨hafter, Or.inr ⟨error, rfl, haside⟩⟩

variable [LawfulComparison α] [LawfulZero α]

/-- A step of an evaluation answers with what may stand for the value in the
target, given that the formula does and that the keys are those of the
target. Nothing else is stored. -/
theorem standsFor_of_answered {pool : Pool α} (hpool : pool.Coherent) {setting target : Setting α}
    (hstate : target.state.Known pool) {aside : Error α → Prop} {k : Kind}
    {quantity : Quantity α k} (hsame : target.key quantity = setting.key quantity)
    (hruns : ∀ {key : Key α} {m m' : Memory α} {r : Checked α (Carrier α k)},
      setting.key quantity = .ok key →
      Executes (StandsFor pool target aside) (quantity.formula setting) m r m' →
      m.store.All (Explained pool target) → m'.store.All (Explained pool target)
        ∧ (Checked.Rel quantity.slot.Alike r (target.eval (quantity.formula target))
          ∨ ∃ error, r = .error error ∧ aside error))
    {m m' : Memory α} {r : Checked α (Kept α k)}
    (h : Answered setting (StandsFor pool target aside) quantity m r m') :
    StandsFor pool target aside quantity m r m' := by
  intro hquantity hsound
  have hvalue := target.value_eq quantity
  cases h with
  | refused hkey =>
      rw [hvalue, hsame, hkey]
      exact ⟨hsound, Or.inl (.error _)⟩
  | held hkey hown =>
      -- Stored for this key at some time, so it may stand for the value under this key now.
      exact ⟨hsound, Or.inl ((hsound _ _ _ hown).alike_value hpool hstate hquantity (Or.inl rfl)
        (hsame.trans hkey))⟩
  | @copied key kept hkey hown hother =>
      obtain ⟨other, hslot, hheld⟩ := Option.bind_eq_some_iff.1 hother
      have hkept := (hsound _ _ _ hheld).alike_value hpool hstate hquantity (Or.inr hslot)
        (hsame.trans hkey)
      exact ⟨hsound.remember (.of_value hstate hquantity (hsame.trans hkey) hkept), Or.inl hkept⟩
  | @failed key error m' hmissing hformula =>
      obtain ⟨hafter, hr | ⟨_, hr, haside⟩⟩ := hruns hmissing.key_eq hformula hsound
      · -- The value fails in the same way, since the formula does.
        refine ⟨hafter, Or.inl ?_⟩
        rw [hvalue, hsame, hmissing.key_eq, Checked.ok_bind, hr.eq_error]
        exact .error error
      · cases hr
        exact ⟨hafter, Or.inr ⟨error, rfl, haside⟩⟩
  | @computed key value m' hmissing hformula =>
      obtain ⟨hafter, hr | ⟨_, hr, -⟩⟩ := hruns hmissing.key_eq hformula hsound
      · -- What is stored is alike to what the formula gives in the target.
        have hkey := hsame.trans hmissing.key_eq
        rw [hkey, Checked.ok_bind] at hvalue
        rw [← hvalue] at hr
        exact ⟨hafter.remember (.of_value hstate hquantity hkey hr), Or.inl hr⟩
      · cases hr

/-- A step of an evaluation is transparent, given that the parts are. -/
theorem transparent_of_answered {pool : Pool α} (hpool : pool.Coherent) {setting : Setting α}
    (hstate : setting.state.Known pool) {k : Kind} {quantity : Quantity α k} {m m' : Memory α}
    {r : Checked α (Kept α k)}
    (h : Answered setting (Transparent pool setting) quantity m r m') :
    Transparent pool setting quantity m r m' := by
  rw [transparent_iff]
  refine standsFor_of_answered hpool hstate rfl ?_ (h.mono transparent_iff.1)
  intro _ _ _ _ _ hformula hsound
  exact executes_standsFor hpool hstate (quantity.formula_passes setting)
    (quantity.formula_alike setting) hformula hsound

/-- Every evaluation is transparent. -/
theorem evaluate_transparent {pool : Pool α} (hpool : pool.Coherent) {setting : Setting α}
    (hstate : setting.state.Known pool) {k : Kind} (quantity : Quantity α k) (m : Memory α) :
    Transparent pool setting quantity m ((evaluate setting quantity).run m).1
      ((evaluate setting quantity).run m).2 :=
  evaluate_rule setting (fun _ _ _ _ => transparent_of_answered hpool hstate) quantity m

end Memory

/-- The cache of the quantity that a request is for. -/
def Request.slot : {k : Kind} → Request α k → Slot k
  | _, quantity q => q.slot
  | _, jacobianTransposeTimesMultipliers group => .jacobianTransposeTimes group
  | _, primalStepLimitAlongDirection _ => .primalStepLimit
  | _, dualStepLimitAlongDirection _ => .dualStepLimit

omit [Scalar α] in
/-- A request is for a quantity of its cache. -/
theorem Request.slot_of_resolve {k : Kind} {request : Request α k} {state : State α}
    {quantity : Quantity α k} (h : request.resolve state = .ok quantity) :
    quantity.slot = request.slot := by
  cases request with
  | quantity q =>
      cases h
      rfl
  | jacobianTransposeTimesMultipliers group =>
      cases group <;> cases h <;> rfl
  | primalStepLimitAlongDirection tau =>
      obtain ⟨direction, -, h⟩ := Checked.bind_eq_ok.1 h
      cases h
      rfl
  | dualStepLimitAlongDirection tau =>
      obtain ⟨direction, -, h⟩ := Checked.bind_eq_ok.1 h
      cases h
      rfl

/-- An operation of a session keeps what is stored explained in the target,
if evaluations do. The target is that of the setting of the moment, and
settings of one frame have targets of one frame. -/
theorem Engine.Performed.explained_of (target : Setting α → Setting α)
    (htarget : ∀ {s₁ s₂ : Setting α}, s₁.SameFrame s₂ → (target s₁).SameFrame (target s₂))
    {pool larger : Pool α} (hpool : pool.Coherent) (hsub : pool.Sub larger)
    {engine engine' : Engine α} {supply supply' : Supply} {action : Action α}
    {events : List (Event α)} (hstate : engine.setting.state.Known pool)
    (hknown : action.Known pool)
    (hevaluate : ∀ {k : Kind} (quantity : Quantity α k) (m : Memory α), quantity.Known pool →
      m.store.All (Explained pool (target engine.setting)) →
      ((Memory.evaluate engine.setting quantity).run m).2.store.All
        (Explained pool (target engine.setting)))
    (h : Engine.Performed engine supply action engine' events supply')
    (hsound : engine.store.All (Explained pool (target engine.setting))) :
    engine'.store.All (Explained larger (target engine'.setting)) := by
  cases h with
  | refused => exact hsound.mono fun hold => hold.mono hsub (.refl _)
  | @answered _ _ quantity hresolve =>
      have hquantity := hknown.known_of_resolve hpool hstate hresolve
      have hafter := hevaluate quantity (engine.memory supply) hquantity hsound
      exact hafter.mono fun hold => hold.mono hsub (.refl _)
  | @changed _ state _ _ hchange =>
      -- What was stored in an older state stays explained by that state.
      have hframe : engine.setting.SameFrame { engine.setting with state } :=
        ⟨rfl, rfl, rfl, hchange.dims.symm⟩
      exact hsound.mono fun hold => hold.mono hsub (htarget hframe)
  | options => exact Store.all_empty _
  -- A session never exchanges the functions.
  | callbacks => exact hknown.elim
  | cleared => exact Store.all_empty _
  | reset => exact hsound.mono fun hold => hold.mono hsub (.refl _)

variable [LawfulComparison α] [LawfulZero α]

/-- A request is answered with what may stand for the value of the quantity
it is for. -/
theorem Engine.answer_transparent {pool : Pool α} (hpool : pool.Coherent) {engine : Engine α}
    (hstate : engine.setting.state.Known pool)
    (hsound : engine.store.All (Explained pool engine.setting)) {k : Kind} {request : Request α k}
    (hrequest : request.Known pool) (supply : Supply) :
    Checked.Rel request.slot.Alike ((engine.answer request supply).1.result.map Shared.value)
      (request.resolve engine.setting.state >>= engine.setting.value) := by
  rcases hresolve : request.resolve engine.setting.state with error | quantity
  · rw [Engine.answer_of_refused hresolve]
    exact .error error
  · rw [Engine.answer_of_resolved hresolve, ← Request.slot_of_resolve hresolve]
    have hquantity := hrequest.known_of_resolve hpool hstate hresolve
    exact (Memory.evaluate_transparent hpool hstate quantity _ hquantity hsound).2

/-- An operation of a session stores explained results only. -/
theorem Engine.Performed.explained {pool larger : Pool α} (hpool : pool.Coherent)
    (hsub : pool.Sub larger) {engine engine' : Engine α} {supply supply' : Supply}
    {action : Action α} {events : List (Event α)} (hstate : engine.setting.state.Known pool)
    (hknown : action.Known pool) (h : Engine.Performed engine supply action engine' events supply')
    (hsound : engine.store.All (Explained pool engine.setting)) :
    engine'.store.All (Explained larger engine'.setting) :=
  Engine.Performed.explained_of id (fun hframe => hframe) hpool hsub hstate hknown
    (fun quantity m hquantity hstored =>
      (Memory.evaluate_transparent hpool hstate quantity m hquantity hstored).1)
    h hsound

/-- At every moment of a session what is stored is explained. -/
theorem Session.explained {pool : Pool α} {engine : Engine α} (h : Session pool engine) :
    engine.store.All (Explained pool engine.setting) := by
  induction h with
  | new _ hnew =>
      obtain ⟨-, -, rfl⟩ := Engine.new_eq_ok.1 hnew
      exact Store.all_empty _
  | create _ hstep ih => exact ih.mono fun hold => hold.mono hstep.sub (.refl _)
  | @perform pool engine hsession action hknown ih =>
      obtain ⟨hpool, hstate⟩ := hsession.coherent_known
      exact (Engine.performed_perform engine action pool.supply).explained hpool
        (pool.learn_sub _ _) hstate hknown ih

/-- Storing results is not visible in the answers. At every moment of a
session the engine answers a request as an engine does that was just set
up for the same problem, state and options, with nothing stored: with the
same value or the same refusal. Four quantities show the sign of a
barrier parameter of zero (`Slot.Signed`), and only for these two values
may be the same up to the signs of zeros. -/
theorem Session.answer_alike_answer_of_new {pool : Pool α} {engine : Engine α}
    (h : Session pool engine) :
    ∃ anew, Engine.new engine.setting.problem engine.setting.state engine.setting.options = .ok anew
      ∧ anew.store = {}
      ∧ ∀ {k : Kind} (request : Request α k), request.Known pool → ∀ supply supply' : Supply,
        Checked.Rel request.slot.Alike ((engine.answer request supply).1.result.map Shared.value)
          ((anew.answer request supply').1.result.map Shared.value) := by
  obtain ⟨hpool, hstate⟩ := h.coherent_known
  -- Both engines answer with the value, the new one because it stores nothing.
  refine ⟨engine.fresh, h.reachable.wellFormed.new_eq_ok, rfl, ?_⟩
  intro k request hrequest supply supply'
  have hanewState : engine.fresh.setting.state.Known pool := hstate
  have hanew : engine.fresh.store.All (Explained pool engine.fresh.setting) := Store.all_empty _
  have hanswer := Engine.answer_transparent hpool hstate h.explained hrequest supply
  have hexpected := Engine.answer_transparent hpool hanewState hanew hrequest supply'
  exact hanswer.trans hexpected.symm fun _ _ _ h h' => h.trans h'.symm

namespace HalfLine

/-- The half line with a gradient of zero that carries a sign. -/
def level : Problem Binary64 :=
  { problem with callbacks := { problem.callbacks with gradient := fun x => x.map fun _ => -0 } }

/-- An engine for the level half line. -/
def levelEngine : Engine Binary64 :=
  { engine with setting := { engine.setting with problem := level } }

/-- The engine is set up in the state of the half line. -/
theorem levelSession : Session (pool.learn state ⟨33⟩) levelEngine := by
  have hnew : Engine.new level state options = .ok levelEngine := rfl
  exact .new arises hnew

/-- The barrier gradient is asked for while the barrier parameter is the
zero with a sign, and the parameter is the zero without a sign
afterwards. -/
def resigned : Engine Binary64 :=
  (((levelEngine.perform (.change (.mu (-0))) ⟨33⟩).1.engine.perform
    (.ask (.quantity (.barrierGradient .x))) ⟨33⟩).1.engine.perform (.change (.mu 0)) ⟨36⟩).1.engine

end HalfLine

set_option maxRecDepth 20000 in
/-- The stored gradient is given out for the other zero. It is zero, and a
new engine answers zero with the other sign. -/
theorem Session.answer_alike_answer_of_new_resigned :
    ∃ anew, Engine.new HalfLine.level HalfLine.resigned.setting.state HalfLine.options = .ok anew
      ∧ (HalfLine.resigned.answer (.quantity (.barrierGradient .x)) ⟨40⟩).1.result.map Shared.value
        = .ok [(0 : Binary64)]
      ∧ (anew.answer (.quantity (.barrierGradient .x)) ⟨50⟩).1.result.map Shared.value
        = .ok [-(0 : Binary64)]
      ∧ Checked.Rel (Slot.barrierGradient .x).Alike
        ((HalfLine.resigned.answer (.quantity (.barrierGradient .x)) ⟨40⟩).1.result.map
          Shared.value)
        ((anew.answer (.quantity (.barrierGradient .x)) ⟨50⟩).1.result.map Shared.value) := by
  have hask : (Action.ask (.quantity (.barrierGradient (α := Binary64) .x))).Known
      ((HalfLine.pool.learn HalfLine.state ⟨33⟩).learn
        (HalfLine.levelEngine.perform (.change (.mu (-0))) ⟨33⟩).1.engine.setting.state ⟨33⟩) :=
    fun _ hv => absurd hv List.not_mem_nil
  have hsession := ((HalfLine.levelSession.perform (.change (.mu (-0))) trivial).perform _
    hask).perform (.change (.mu 0)) trivial
  obtain ⟨anew, hnew, -, hanswer⟩ := Session.answer_alike_answer_of_new hsession
  have hfresh : Engine.new HalfLine.level HalfLine.resigned.setting.state HalfLine.options
      = .ok HalfLine.resigned.fresh := rfl
  -- The engine that starts afresh is the one that the theorem names.
  obtain rfl := Except.ok.inj (hnew.symm.trans hfresh)
  refine ⟨_, hnew, rfl, rfl, ?_⟩
  exact hanswer (.quantity (.barrierGradient .x)) (fun _ hv => absurd hv List.not_mem_nil) ⟨40⟩ ⟨50⟩

end InteriorPoint
