import InteriorPoint.Proofs.Engine.Transparency

/-!
# `InteriorPoint.Proofs.Engine.WrongShapes`: results of the wrong shape leave no trace

The functions of a problem may answer with the wrong shape for a while.
An engine that is used meanwhile stays as good as one over the right
functions. What it answers is what the right functions give. Where it
gives up and they would not, it reports a size that does not fit. And as
soon as the right functions are back, nothing is left of the others.

The invariant is that every stored result may stand for the value that the
right functions give (`Explained`, for the setting with these functions). A
wrong shape does not get past the check that follows the call
(`Setting.eval_formula_of_strays`), so the quantity that stands for the
function fails, and what asked for it fails with it. A formula that has
stored some of its parts by then has stored values
(`Memory.evaluate_faithful`).
-/

set_option autoImplicit false

namespace InteriorPoint

variable {α : Type}

/-! ### Other functions of the problem -/

namespace Setting

/-- The setting with other functions of the problem. -/
def withCallbacks (setting : Setting α) (callbacks : Callbacks α) : Setting α :=
  { setting with problem := { setting.problem with callbacks } }

/-- Other functions take the place of both. -/
theorem SameFrame.withCallbacks {s₁ s₂ : Setting α} (h : s₁.SameFrame s₂)
    (callbacks : Callbacks α) :
    (s₁.withCallbacks callbacks).SameFrame (s₂.withCallbacks callbacks) :=
  ⟨by simp only [Setting.withCallbacks, h.problem], h.options, h.damping, h.dims⟩

section
variable [Scalar α]

/-- A key reads the state and the options, and no function. -/
theorem key_withCallbacks (setting : Setting α) (callbacks : Callbacks α) {k : Kind}
    (q : Quantity α k) : (setting.withCallbacks callbacks).key q = setting.key q := by
  cases q <;> rfl

/-- A formula calls no function but the one that its quantity stands
for. -/
theorem formula_withCallbacks (setting : Setting α) (callbacks : Callbacks α) {k : Kind}
    {q : Quantity α k} (h : q.callback? = none) :
    q.formula (setting.withCallbacks callbacks) = q.formula setting := by
  cases q
  case barrierGradient block => cases block <;> rfl
  case lagrangianGradient block => cases block <;> rfl
  all_goals first | rfl | cases h

end

/-- The functions of the problem give what `good` gives, or something of
the wrong shape. The objective has no shape and is that of `good`. -/
structure StraysFrom (setting : Setting α) (good : Callbacks α) : Prop where
  objective : setting.problem.callbacks.objective = good.objective
  gradient : ∀ x : List α, x.length = setting.dims.x →
    setting.problem.callbacks.gradient x = good.gradient x
      ∨ (setting.problem.callbacks.gradient x).length ≠ setting.dims.x
  constraint : ∀ group (x : List α), x.length = setting.dims.x →
    setting.problem.callbacks.constraint group x = good.constraint group x
      ∨ (setting.problem.callbacks.constraint group x).length ≠ setting.groupSize group
  jacobian : ∀ group (x : List α), x.length = setting.dims.x →
    setting.problem.callbacks.jacobian group x = good.jacobian group x
      ∨ (setting.problem.callbacks.jacobian group x).rowCount ≠ setting.groupSize group
      ∨ (setting.problem.callbacks.jacobian group x).columns ≠ setting.dims.x
  hessian : ∀ (x : List α) weight (yC yD : List α), x.length = setting.dims.x →
    yC.length = setting.dims.c → yD.length = setting.dims.s →
    setting.problem.callbacks.hessian x weight yC yD = good.hessian x weight yC yD
      ∨ (setting.problem.callbacks.hessian x weight yC yD).rowCount ≠ setting.dims.x
      ∨ (setting.problem.callbacks.hessian x weight yC yD).columns ≠ setting.dims.x

/-- A function does not stray from itself. -/
theorem StraysFrom.refl (setting : Setting α) : setting.StraysFrom setting.problem.callbacks where
  objective := rfl
  gradient _ _ := Or.inl rfl
  constraint _ _ _ := Or.inl rfl
  jacobian _ _ _ := Or.inl rfl
  hessian _ _ _ _ _ _ _ := Or.inl rfl

/-- Only the functions and the sizes matter. -/
theorem StraysFrom.congr {setting setting' : Setting α} {good : Callbacks α}
    (h : setting.StraysFrom good)
    (hcallbacks : setting'.problem.callbacks = setting.problem.callbacks)
    (hdims : setting'.dims = setting.dims) : setting'.StraysFrom good := by
  obtain ⟨hobjective, hgradient, hconstraint, hjacobian, hhessian⟩ := h
  -- The sizes of the groups come from the dimensions.
  have hgroup : setting'.groupSize = setting.groupSize := by
    funext group
    cases group <;> simp only [groupSize, hdims]
  constructor <;> rw [hcallbacks] <;> try rw [hdims]
  · exact hobjective
  · exact hgradient
  · rw [hgroup]
    exact hconstraint
  · rw [hgroup]
    exact hjacobian
  · exact hhessian

end Setting

/-- The error reports a size that does not fit. -/
def Error.IsMismatch (error : Error α) : Prop :=
  ∃ context expected found, error = .dimensionMismatch context expected found

/-- The result is the report of a size that does not fit. -/
def Checked.IsMismatch {β : Type} (result : Checked α β) : Prop :=
  ∃ context expected found, result = .error (.dimensionMismatch context expected found)

namespace Checked

variable {β γ : Type}

/-- Such a result is an error of this sort. -/
theorem isMismatch_iff {result : Checked α β} :
    result.IsMismatch ↔ ∃ error, result = .error error ∧ error.IsMismatch := by
  constructor
  · rintro ⟨context, expected, found, h⟩
    exact ⟨_, h, context, expected, found, rfl⟩
  · rintro ⟨_, h, context, expected, found, rfl⟩
    exact ⟨context, expected, found, h⟩

/-- A size that does not fit is reported before anything else is done. -/
theorem isMismatch_ensureSize {context : String} {expected found : Nat} (h : found ≠ expected)
    (f : Unit → Checked α γ) : (ensureSize context expected found >>= f).IsMismatch := by
  unfold ensureSize
  rw [if_neg h.symm]
  exact ⟨context, expected, found, rfl⟩

/-- Rows and columns are checked one after the other. -/
theorem isMismatch_shape {rowContext columnContext : String}
    {rows columns foundRows foundColumns : Nat}
    (h : foundRows ≠ rows ∨ foundColumns ≠ columns) (f : Unit → Checked α γ) :
    (ensureSize rowContext rows foundRows >>= fun _ =>
      ensureSize columnContext columns foundColumns >>= f).IsMismatch := by
  by_cases hrows : foundRows = rows
  · rw [ensureSize_eq_ok.2 hrows.symm]
    exact isMismatch_ensureSize (h.resolve_left (absurd hrows)) f
  · exact isMismatch_ensureSize hrows _

end Checked

variable [Scalar α]

/-- A quantity that stands for a function asks for nothing. -/
theorem Quantity.callback_within (setting : Setting α) {k : Kind} {q : Quantity α k}
    {callback : Callback} (h : q.callback? = some callback) :
    (q.formula setting).Within (fun _ => False) (fun _ => True) fun _ => True := by
  cases q <;> cases h <;> simp [Quantity.formula, Program.ensure]

/-- What a call gives is what it gives with the right functions, or a
size that does not fit. -/
theorem Setting.eval_formula_of_strays {setting : Setting α} {good : Callbacks α}
    (hstrays : setting.StraysFrom good) (hvalid : setting.state.Valid) {k : Kind}
    {q : Quantity α k} {callback : Callback} (h : q.callback? = some callback) {key : Key α}
    (hkey : setting.key q = .ok key) :
    setting.eval (q.formula setting)
        = (setting.withCallbacks good).eval (q.formula (setting.withCallbacks good))
      ∨ (setting.eval (q.formula setting)).IsMismatch := by
  rw [Quantity.key_of_callback h, Checked.bind_eq_ok] at hkey
  obtain ⟨iterate, hat, -⟩ := hkey
  have hfits := hvalid.iterateAt hat
  have hx : iterate.x.entries.length = setting.dims.x := (hfits .x).symm
  have hyC : iterate.yC.entries.length = setting.dims.c := (hfits .yC).symm
  have hyD : iterate.yD.entries.length = setting.dims.s := (hfits .yD).symm
  -- The same call follows in both settings, and the check of its result after it.
  cases q <;> cases h <;>
    simp only [Quantity.formula, Setting.eval_bind, Setting.eval_lift, Setting.eval_tell,
      Setting.eval_ensure, Setting.eval_pure, pure_bind]
  case objective point =>
    refine Or.inl ?_
    simp only [Setting.withCallbacks, hstrays.objective]
  case objectiveGradient =>
    cases hat
    rcases hstrays.gradient _ hx with hsame | hwrong
    · rw [hsame]
      exact Or.inl rfl
    · exact Or.inr (Checked.isMismatch_ensureSize hwrong _)
  case constraint group point =>
    rw [show setting.state.iterateAt point = .ok iterate from hat]
    rw [show (setting.withCallbacks good).state.iterateAt point = .ok iterate from hat]
    simp only [Checked.ok_bind]
    rcases hstrays.constraint group _ hx with hsame | hwrong
    · rw [hsame]
      exact Or.inl rfl
    · exact Or.inr (Checked.isMismatch_ensureSize hwrong _)
  case jacobian group =>
    cases hat
    rcases hstrays.jacobian group _ hx with hsame | hwrong
    · rw [hsame]
      exact Or.inl rfl
    · exact Or.inr (Checked.isMismatch_shape hwrong _)
  case hessian =>
    cases hat
    rcases hstrays.hessian _ 1 _ _ hx hyC hyD with hsame | hwrong
    · rw [hsame]
      exact Or.inl rfl
    · exact Or.inr (Checked.isMismatch_shape hwrong _)

/-! ### Answers -/

namespace Memory

/-- What is asked of an answer: the stored results stay explained over the
right functions, and the answer may stand for the value over them or
reports a size that does not fit. -/
def Faithful (pool : Pool α) (good : Callbacks α) (setting : Setting α) : Answers α :=
  fun _ q m r m' => q.Known pool →
    m.store.All (Explained pool (setting.withCallbacks good)) →
      m'.store.All (Explained pool (setting.withCallbacks good))
        ∧ (Checked.Rel q.slot.Alike (r.map Shared.value) ((setting.withCallbacks good).value q)
          ∨ r.IsMismatch)

/-- A program that asks for nothing stores nothing. -/
theorem Executes.eq_eval_of_asks_nothing (setting : Setting α) {answers : Answers α}
    {bound : Nat} {β : Type} {p : Program α bound β} {m m' : Memory α} {r : Checked α β}
    {reports : Event α → Prop} {returns : β → Prop}
    (hp : p.Within (fun _ => False) reports returns) (h : Executes answers p m r m') :
    m'.store = m.store ∧ r = setting.eval p := by
  induction h with
  | done => exact ⟨rfl, rfl⟩
  | fail => exact ⟨rfl, rfl⟩
  | report _ ih => exact ih hp.2
  | ask => exact hp.1.elim
  | refused => exact hp.1.elim

/-- An answer is faithful if it stands for the value over the right
functions, a size that does not fit set aside. -/
theorem faithful_iff {pool : Pool α} {good : Callbacks α} {setting : Setting α} {k : Kind}
    {quantity : Quantity α k} {m m' : Memory α} {r : Checked α (Kept α k)} :
    Faithful pool good setting quantity m r m'
      ↔ StandsFor pool (setting.withCallbacks good) Error.IsMismatch quantity m r m' := by
  simp only [Faithful, StandsFor, Checked.isMismatch_iff]

variable [LawfulZero α]

/-- The formula of a quantity gives what it gives with the right
functions, or a size that does not fit. -/
theorem executes_formula_of_strays {pool : Pool α} (hpool : pool.Coherent) {good : Callbacks α}
    {setting : Setting α} (hstate : setting.state.Known pool) (hvalid : setting.state.Valid)
    (hstrays : setting.StraysFrom good) {k : Kind} {quantity : Quantity α k} {key : Key α}
    (hkey : setting.key quantity = .ok key) {m m' : Memory α} {r : Checked α (Carrier α k)}
    (h : Executes (StandsFor pool (setting.withCallbacks good) Error.IsMismatch)
      (quantity.formula setting) m r m')
    (hsound : m.store.All (Explained pool (setting.withCallbacks good))) :
    m'.store.All (Explained pool (setting.withCallbacks good))
      ∧ (Checked.Rel quantity.slot.Alike r
          ((setting.withCallbacks good).eval (quantity.formula (setting.withCallbacks good)))
        ∨ ∃ error, r = .error error ∧ error.IsMismatch) := by
  rcases hcallback : quantity.callback? with _ | callback
  · -- The formula is the same with any functions, and its parts are faithful.
    rw [Setting.formula_withCallbacks setting good hcallback]
    exact executes_standsFor hpool hstate (quantity.formula_passes setting)
      (quantity.formula_alike setting) h hsound
  · -- The formula is a call, which stores nothing.
    obtain ⟨hstore, rfl⟩ :=
      h.eq_eval_of_asks_nothing setting (Quantity.callback_within setting hcallback)
    rw [hstore, ← Checked.isMismatch_iff]
    exact ⟨hsound, (Setting.eval_formula_of_strays hstrays hvalid hcallback hkey).imp_left
      (Slot.Alike.rel_of_eq quantity.slot)⟩

variable [LawfulComparison α]

/-- An evaluation is faithful to the right functions. -/
theorem evaluate_faithful {pool : Pool α} (hpool : pool.Coherent) {good : Callbacks α}
    {setting : Setting α} (hstate : setting.state.Known pool) (hvalid : setting.state.Valid)
    (hstrays : setting.StraysFrom good) {k : Kind} (quantity : Quantity α k) (m : Memory α) :
    Faithful pool good setting quantity m ((evaluate setting quantity).run m).1
      ((evaluate setting quantity).run m).2 := by
  refine evaluate_rule setting ?_ quantity m
  intro k quantity m r m' h
  rw [faithful_iff]
  have hgood : (setting.withCallbacks good).state.Known pool := hstate
  exact standsFor_of_answered hpool hgood (setting.key_withCallbacks good quantity)
    (fun hkey => executes_formula_of_strays hpool hstate hvalid hstrays hkey)
    (h.mono faithful_iff.1)

end Memory

/-- A request is answered with what may stand for the value over the right
functions, or with a size that does not fit. -/
theorem Engine.answer_alike_or_isMismatch [LawfulComparison α] [LawfulZero α]
    {good : Callbacks α} {pool : Pool α} (hpool : pool.Coherent) {engine : Engine α}
    (hstate : engine.setting.state.Known pool)
    (hvalid : engine.setting.state.Valid) (hstrays : engine.setting.StraysFrom good)
    (hsound : engine.store.All (Explained pool (engine.setting.withCallbacks good))) {k : Kind}
    {request : Request α k} (hrequest : request.Known pool) (supply : Supply) :
    Checked.Rel request.slot.Alike ((engine.answer request supply).1.result.map Shared.value)
        (request.resolve engine.setting.state >>= (engine.setting.withCallbacks good).value)
      ∨ Checked.IsMismatch ((engine.answer request supply).1.result.map Shared.value) := by
  rcases hresolve : request.resolve engine.setting.state with error | quantity
  · rw [Engine.answer_of_refused hresolve]
    exact Or.inl (.error error)
  · rw [Engine.answer_of_resolved hresolve, ← Request.slot_of_resolve hresolve]
    have hquantity := hrequest.known_of_resolve hpool hstate hresolve
    refine (Memory.evaluate_faithful hpool hstate hvalid hstrays quantity (engine.memory supply)
      hquantity hsound).2.imp_right ?_
    rintro ⟨context, expected, found, hmismatch⟩
    refine ⟨context, expected, found, ?_⟩
    -- The report is the same for the stored result and for its value.
    simp only [hmismatch]
    rfl

/-- An operation that leaves the functions alone keeps them close to the
right ones. -/
theorem Engine.Performed.strays {good : Callbacks α} {pool : Pool α} {engine engine' : Engine α}
    {supply supply' : Supply} {action : Action α} {events : List (Event α)}
    (h : Engine.Performed engine supply action engine' events supply')
    (hknown : action.Known pool) (hstrays : engine.setting.StraysFrom good) :
    engine'.setting.StraysFrom good := by
  cases h with
  | refused => exact hstrays
  | answered => exact hstrays
  | changed hchange => exact hstrays.congr rfl hchange.dims
  | options => exact hstrays.congr rfl rfl
  -- A session never exchanges the functions.
  | callbacks => exact hknown.elim
  | cleared => exact hstrays
  | reset => exact hstrays

/-- An operation stores results that are explained over the right
functions only. -/
theorem Engine.Performed.faithful [LawfulComparison α] [LawfulZero α] {good : Callbacks α}
    {pool larger : Pool α} (hpool : pool.Coherent) (hsub : pool.Sub larger)
    {engine engine' : Engine α} {supply supply' : Supply} {action : Action α}
    {events : List (Event α)} (hstate : engine.setting.state.Known pool)
    (hvalid : engine.setting.state.Valid) (hstrays : engine.setting.StraysFrom good)
    (hknown : action.Known pool) (h : Engine.Performed engine supply action engine' events supply')
    (hsound : engine.store.All (Explained pool (engine.setting.withCallbacks good))) :
    engine'.store.All (Explained larger (engine'.setting.withCallbacks good)) := by
  -- New functions are excluded here: `SpoiledSession.replace` is about them.
  refine Engine.Performed.explained_of (·.withCallbacks good)
    (fun hframe => hframe.withCallbacks good) hpool hsub hstate hknown ?_ h hsound
  intro _ quantity m hquantity hstored
  exact (Memory.evaluate_faithful hpool hstate hvalid hstrays quantity m hquantity hstored).1

/-! ### Sessions in which the functions change -/

/-- The sessions of an engine that was set up over the functions `good`.
At any moment the functions may be replaced by others that give what
`good` gives or something of the wrong shape. Putting `good` back is one
such replacement. -/
inductive SpoiledSession (good : Callbacks α) : Pool α → Engine α → Prop where
  | new {pool : Pool α} {problem : Problem α} {state : State α} {options : Options α}
      {engine : Engine α} (hstate : State.Arises pool state)
      (hgood : problem.callbacks = good)
      (hnew : Engine.new problem state options = .ok engine) : SpoiledSession good pool engine
  | create {pool pool' : Pool α} {engine : Engine α} (h : SpoiledSession good pool engine)
      (hstep : pool.Step pool') : SpoiledSession good pool' engine
  | perform {pool : Pool α} {engine : Engine α} (h : SpoiledSession good pool engine)
      (action : Action α) (hknown : action.Known pool) :
      SpoiledSession good
        (pool.learn (engine.perform action pool.supply).1.engine.setting.state
          (engine.perform action pool.supply).2)
        (engine.perform action pool.supply).1.engine
  | replace {pool : Pool α} {engine : Engine α} (h : SpoiledSession good pool engine)
      (callbacks : Callbacks α)
      (hstrays : (engine.setting.withCallbacks callbacks).StraysFrom good) :
      SpoiledSession good pool (engine.perform (.setCallbacks callbacks) pool.supply).1.engine

namespace SpoiledSession

variable {good : Callbacks α} {pool : Pool α} {engine : Engine α}

/-- The identities of the pool tell its vectors and points apart, and the
state is made of these. -/
theorem coherent_known (h : SpoiledSession good pool engine) :
    pool.Coherent ∧ engine.setting.state.Known pool := by
  induction h with
  | new hstate _ hnew =>
      obtain ⟨-, -, rfl⟩ := Engine.new_eq_ok.1 hnew
      exact hstate.coherent_known
  | create _ hstep ih => exact ⟨hstep.coherent ih.1, ih.2.mono hstep.sub⟩
  | perform _ action hknown ih =>
      exact (Engine.performed_perform _ action _).learn ih.1 ih.2 hknown
  | replace _ _ _ ih => exact ih

/-- Replacing functions is one of the operations on an engine. -/
theorem reachable (h : SpoiledSession good pool engine) : engine.Reachable := by
  induction h with
  | new hstate _ hnew => exact .new hstate.reachable hnew
  | create _ _ ih => exact ih
  | perform _ action _ ih => exact .perform ih action _
  | replace _ callbacks _ ih => exact .perform ih (.setCallbacks callbacks) _

/-- At every moment the functions stray from the right ones at most. -/
theorem strays (h : SpoiledSession good pool engine) : engine.setting.StraysFrom good := by
  induction h with
  | new _ hgood hnew =>
      obtain ⟨-, -, rfl⟩ := Engine.new_eq_ok.1 hnew
      rw [← hgood]
      exact Setting.StraysFrom.refl _
  | create _ _ ih => exact ih
  | perform _ action hknown ih => exact (Engine.performed_perform _ action _).strays hknown ih
  | replace _ _ hstrays _ => exact hstrays

variable [LawfulComparison α] [LawfulZero α]

/-- What is stored is explained over the right functions. -/
theorem explained (h : SpoiledSession good pool engine) :
    engine.store.All (Explained pool (engine.setting.withCallbacks good)) := by
  induction h with
  | new _ _ hnew =>
      obtain ⟨-, -, rfl⟩ := Engine.new_eq_ok.1 hnew
      exact Store.all_empty _
  | create _ hstep ih => exact ih.mono fun hold => hold.mono hstep.sub (.refl _)
  | @perform pool engine hsession action hknown ih =>
      obtain ⟨hpool, hstate⟩ := hsession.coherent_known
      exact (Engine.performed_perform engine action pool.supply).faithful hpool
        (pool.learn_sub _ _) hstate hsession.reachable.wellFormed.valid hsession.strays hknown ih
  | replace _ _ _ ih => exact ih

/-- At every moment a request is answered with what may stand for the value
over the right functions, or with a size that does not fit. -/
theorem answer_alike_or_isMismatch (h : SpoiledSession good pool engine) {k : Kind}
    {request : Request α k} (hrequest : request.Known pool) (supply : Supply) :
    Checked.Rel request.slot.Alike ((engine.answer request supply).1.result.map Shared.value)
        (request.resolve engine.setting.state >>= (engine.setting.withCallbacks good).value)
      ∨ Checked.IsMismatch ((engine.answer request supply).1.result.map Shared.value) := by
  obtain ⟨hpool, hstate⟩ := h.coherent_known
  exact Engine.answer_alike_or_isMismatch hpool hstate h.reachable.wellFormed.valid h.strays
    h.explained hrequest supply

/-- Results of the wrong shape leave no trace. At every moment of the
session a request that is answered is answered as an engine answers it
that was just set up over the right functions, for the same state and
options. A refusal is that engine's, or it reports a size that does not
fit. And whenever the right functions are in place, both answer in the
same way, also to requests that were refused before. As ever, the four
quantities that show the sign of a zero barrier parameter may differ in
the signs of zeros, and no other quantity differs at all
(`Slot.Alike`). -/
theorem answer_faithful (h : SpoiledSession good pool engine) :
    ∃ anew, Engine.new { engine.setting.problem with callbacks := good } engine.setting.state
        engine.setting.options = .ok anew
      ∧ anew.store = {}
      ∧ ∀ {k : Kind} (request : Request α k), request.Known pool → ∀ supply supply' : Supply,
        let answer := (engine.answer request supply).1.result.map Shared.value
        let expected := (anew.answer request supply').1.result.map Shared.value
        (∀ value, answer = .ok value →
            ∃ value', expected = .ok value' ∧ request.slot.Alike value value')
          ∧ (∀ error, answer = .error error → expected = .error error
            ∨ ∃ context size found, error = .dimensionMismatch context size found)
          ∧ (engine.setting.problem.callbacks = good →
            Checked.Rel request.slot.Alike answer expected) := by
  obtain ⟨hpool, hstate⟩ := h.coherent_known
  -- An engine could be set up anew right after the right functions are put back.
  let anew : Engine α := { engine.fresh with setting := engine.setting.withCallbacks good }
  have hnew : Engine.new { engine.setting.problem with callbacks := good } engine.setting.state
      engine.setting.options = .ok anew :=
    (h.reachable.perform (.setCallbacks good) pool.supply).wellFormed.new_eq_ok
  refine ⟨anew, hnew, rfl, ?_⟩
  intro k request hrequest supply supply' answer expected
  have hanewState : anew.setting.state.Known pool := hstate
  have hanew : anew.store.All (Explained pool anew.setting) := Store.all_empty _
  have hexpected : Checked.Rel request.slot.Alike expected
      (request.resolve engine.setting.state >>= (engine.setting.withCallbacks good).value) :=
    Engine.answer_transparent hpool hanewState hanew hrequest supply'
  -- What may stand for the value may stand for the new engine's answer.
  have hcompare : Checked.Rel request.slot.Alike answer
      (request.resolve engine.setting.state >>= (engine.setting.withCallbacks good).value) →
      Checked.Rel request.slot.Alike answer expected := fun hvalue =>
    hvalue.trans hexpected.symm fun _ _ _ h h' => h.trans h'.symm
  refine ⟨?_, ?_, ?_⟩
  · intro value hvalue
    rcases h.answer_alike_or_isMismatch hrequest supply with hsame | ⟨_, _, _, hmismatch⟩
    · have hsame := hcompare hsame
      rw [hvalue] at hsame
      exact hsame.exists_ok
    · cases hmismatch.symm.trans hvalue
  · intro error herror
    refine (h.answer_alike_or_isMismatch hrequest supply).imp (fun hsame => ?_) ?_
    · have hsame := hcompare hsame
      rw [herror] at hsame
      exact hsame.eq_error
    · rintro ⟨context, size, found, hmismatch⟩
      cases hmismatch.symm.trans herror
      exact ⟨context, size, found, rfl⟩
  · intro hgood
    have hsame : engine.setting.withCallbacks good = engine.setting := by
      rw [← hgood]
      rfl
    have hsound := h.explained
    rw [hsame] at hsound
    refine hcompare ?_
    rw [hsame]
    exact Engine.answer_transparent hpool hstate hsound hrequest supply

end SpoiledSession

/-- The function of the inequalities answers with one entry too many. -/
def HalfLine.spoiled : Callbacks Binary64 :=
  { HalfLine.problem.callbacks with
    constraint := fun group x => match group with
      | .equality => []
      | .inequality => x }

/-- Only the function of the inequalities gives something else, which is
of the wrong size. -/
theorem HalfLine.spoiled_strays :
    (HalfLine.engine.setting.withCallbacks HalfLine.spoiled).StraysFrom
      HalfLine.problem.callbacks where
  objective := rfl
  gradient _ _ := Or.inl rfl
  constraint group x hx := by
    cases group with
    | equality => exact Or.inl rfl
    | inequality =>
        have hx : x.length = 1 := hx
        -- Of a point with one entry the spoiled function returns one value, where none is expected.
        refine Or.inr fun hlength : x.length = 0 => ?_
        omega
  jacobian _ _ _ := Or.inl rfl
  hessian _ _ _ _ _ _ _ := Or.inl rfl

set_option maxRecDepth 20000 in
/-- A request that failed after a part of it was stored is answered as by
a new engine once the right functions are back. -/
theorem SpoiledSession.answer_faithful_halfLine :
    let failing := ((HalfLine.engine.perform (.setCallbacks HalfLine.spoiled) ⟨33⟩).1.engine.perform
      (.ask (.quantity (.constraintViolation .current))) ⟨33⟩).1
    let restored :=
      (failing.engine.perform (.setCallbacks HalfLine.problem.callbacks) ⟨34⟩).1.engine
    failing.result = .error (.dimensionMismatch "d(x) length" 0 1)
      ∧ ∃ anew, Engine.new HalfLine.problem HalfLine.state HalfLine.options = .ok anew
        ∧ anew.store = {}
        ∧ (restored.answer (.quantity (.constraintViolation .current)) ⟨40⟩).1.result.map
          Shared.value
          = (anew.answer (.quantity (.constraintViolation .current)) ⟨50⟩).1.result.map
            Shared.value := by
  intro failing restored
  have hstart : SpoiledSession HalfLine.problem.callbacks
      (HalfLine.pool.learn HalfLine.state ⟨33⟩) HalfLine.engine :=
    .new HalfLine.arises rfl HalfLine.new_eq_ok
  -- Spoil the functions, let a request fail, and put them back.
  have hspoiled := hstart.replace HalfLine.spoiled HalfLine.spoiled_strays
  have hfailing := hspoiled.perform (.ask (.quantity (.constraintViolation .current)))
    fun _ hv => absurd hv List.not_mem_nil
  have hrestored := hfailing.replace HalfLine.problem.callbacks (Setting.StraysFrom.refl _)
  obtain ⟨anew, hnew, hstore, hanswer⟩ := hrestored.answer_faithful
  refine ⟨rfl, anew, hnew, hstore, ?_⟩
  have hsame := (hanswer (.quantity (.constraintViolation .current))
    (fun _ hv => absurd hv List.not_mem_nil) ⟨40⟩ ⟨50⟩).2.2 rfl
  -- The constraint violation shows no sign.
  exact (hsame.mono fun _ _ h => h.eq id).eq

end InteriorPoint
