import InteriorPoint.Proofs.Engine.Answers
import InteriorPoint.Proofs.Quantity.SlackSteps

/-!
# `InteriorPoint.Proofs.Engine.SlackSteps`: limits for the variables and for the slacks

A step of the variables may be limited directly, or through the steps of
the slacks that go with it. The two limits are kept in caches of their own
and are put together in a different order. Still a session answers both
with the same number, up to the sign of zero, and keeps to it whatever it
was asked before (`Session.stepLimits_agree`). No entry of the steps has to
be a number, and no arithmetic is assumed.

The values agree by `Sound.stepLimits_same`. That the answers are the values
is `Session.answer_eq_value`, which needs the vectors of the request to
exist.
-/

set_option autoImplicit false

namespace InteriorPoint

section
variable {α : Type} [Scalar α]

/-- A step of the variables and the steps of the slacks that belong to it,
all of them vectors of the pool. The slacks of a family move along the
selected entries of the step of their block, those on the upper side in the
opposite direction. -/
structure Setting.SlackSteps (setting : Setting α) (pool : Pool α)
    (step : Block → TaggedVector α) (steps : PerFamily (TaggedVector α)) : Prop where
  step_mem : ∀ block, step block ∈ pool.vectors
  steps_mem : ∀ family, steps.get family ∈ pool.vectors
  size_step : ∀ block, (step block).size = setting.blockSize block
  slackStep : ∀ family : Family, (setting.problem.limits family).slackStep family.side
    (step family.block).entries = .ok (steps.get family).entries

namespace Setting.SlackSteps

variable {setting : Setting α} {pool : Pool α} {step : Block → TaggedVector α}
  {steps : PerFamily (TaggedVector α)} (h : setting.SlackSteps pool step steps)
include h

/-- Vectors that exist go on existing. -/
theorem mono {larger : Pool α} (hsub : pool.Sub larger) : setting.SlackSteps larger step steps :=
  ⟨fun block => hsub.vectors _ (h.step_mem block),
    fun family => hsub.vectors _ (h.steps_mem family), h.size_step, h.slackStep⟩

/-- The request for the limit of the variables is made with vectors that
exist. -/
theorem known_primal (tau : α) :
    (Request.quantity (.primalStepLimit tau (step .x) (step .s))).Known pool :=
  List.forall_mem_cons.2 ⟨h.step_mem .x, List.forall_mem_singleton.2 (h.step_mem .s)⟩

/-- So is the request for the limit of the slacks. -/
theorem known_slack (tau : α) : (Request.quantity (.slackStepLimit tau steps)).Known pool :=
  PerFamily.forall_mem_toList.2 h.steps_mem

end Setting.SlackSteps

/-- For every fraction `tau` in `(0, 1]` a session answers the limit for a
step of the variables and the limit for the steps of the slacks with the
same number, up to the sign of zero. It does so at every later moment at
which the engine is in the same setting, whatever was asked before and
whatever is stored. The entries of the steps may be undefined or
infinite. -/
theorem Session.stepLimits_agree [LawfulComparison α] [LawfulZero α] {pool : Pool α}
    {engine : Engine α} (h : Session pool engine) {tau : α} (htau : 0 < tau) (htau' : tau ≤ 1)
    {step : Block → TaggedVector α} {steps : PerFamily (TaggedVector α)}
    (hsteps : engine.setting.SlackSteps pool step steps) :
    ∃ primal slack : α, Scalar.Same primal slack
      ∧ ∀ {later : Engine α} {pool' : Pool α}, Session pool' later → pool.Sub pool' →
        later.setting = engine.setting → ∀ supply,
          (later.answer (.quantity (.primalStepLimit tau (step .x) (step .s)))
              supply).1.result.map Shared.value = .ok primal
            ∧ (later.answer (.quantity (.slackStepLimit tau steps))
              supply).1.result.map Shared.value = .ok slack := by
  obtain ⟨primal, slack, hprimal, hslack, hsame⟩ :=
    h.reachable.wellFormed.sound.stepLimits_same htau htau' hsteps.size_step hsteps.slackStep
  refine ⟨primal, slack, hsame, ?_⟩
  intro later pool' hlater hsub hsetting supply
  rw [← hsetting] at hprimal hslack
  have hexist := hsteps.mono hsub
  -- At that moment both answers are the values, which the setting determines.
  rw [hlater.answer_eq_value (.of_not_signed id) rfl (hexist.known_primal tau),
    hlater.answer_eq_value (.of_not_signed id) rfl (hexist.known_slack tau), hprimal, hslack]
  exact ⟨rfl, rfl⟩

end

/-! ### A step that is partly undefined

Two variables in double precision, both bounded below and the second one
above as well. The step is undefined in the first and leads to the upper
bound in the second. -/

namespace Strip

open HalfLine (vector)

/-- Minimize `x₀` subject to `0 ≤ x` and `x₁ ≤ 1`. -/
def problem : Problem Binary64 where
  xBounds :=
    { lower :=
        { selection := Corner.both
          values := [0, 0]
          aligned := rfl }
      upper :=
        { selection := Corner.second
          values := [1]
          aligned := rfl }
      same_dim := rfl }
  dBounds := .free 0
  equalities := 0
  callbacks := HalfLine.problem.callbacks

/-- The current point. -/
def current : Iterate Binary64 where
  tag := ⟨5⟩
  x := vector 3 [1, 0]
  s := vector 1 []
  yC := vector 6 []
  yD := vector 8 []
  multipliers := ⟨vector 10 [0, 0], vector 12 [0], vector 14 [], vector 16 []⟩

/-- An entry that is not a number. -/
def undefined : Binary64 :=
  ⟨0x7FF8000000000000⟩

/-- The fraction of the way to the bound. -/
def half : Binary64 :=
  ⟨0x3FE0000000000000⟩

/-- The step of the variables. There are no slack variables. -/
def step : Block → TaggedVector Binary64
  | .x => vector 18 [undefined, 1]
  | .s => vector 1 []

/-- The lower slacks move as the variables do. -/
def steps : PerFamily (TaggedVector Binary64) :=
  ⟨vector 18 [undefined, 1], vector 20 [-1], vector 1 [], vector 1 []⟩

/-- The state at the current point. -/
def state : State Binary64 where
  dims := problem.dimensions
  current := current
  trial := none
  direction := none
  mu := 1
  iterations := 0

/-- An engine in this state that has not been asked for anything. -/
def engine : Engine Binary64 where
  setting :=
    { problem, state
      options := HalfLine.options
      damping := dampingIndicators problem.xBounds problem.dBounds }
  store := {}
  adjusted := ⟨0, 0, 0, 0⟩

/-- The vectors that the current point is made from. -/
def vectors : Pool Binary64 :=
  (Pool.addVector {} (vector 1 []) ⟨3⟩).addVector (vector 3 [1, 0]) ⟨5⟩

/-- The current point and the vectors of both kinds of steps. -/
def pool : Pool Binary64 :=
  ((vectors.addPoint current ⟨18⟩).addVector (step .x) ⟨20⟩).addVector steps.xUpper ⟨22⟩

/-- The engine begins a session, after which both steps are made. -/
theorem session : Session pool engine := by
  have hgiven : ∀ v ∈ (IterateDraft.ofPrimal (vector 3 [1, 0]) (vector 1 [])).given,
      v ∈ vectors.vectors := by decide +kernel
  have hpool : (vectors.addPoint current ⟨18⟩).Reachable :=
    .step (.step (.step .empty (.vector [] rfl)) (.vector [1, 0] rfl))
      (.build problem.dimensions hgiven rfl)
  have hstart : State.start problem.dimensions current 1 = .ok state := rfl
  have hnew : Engine.new problem state HalfLine.options = .ok engine := rfl
  have hsession : Session (vectors.addPoint current ⟨18⟩) engine :=
    .new (.start hpool List.mem_cons_self hstart) hnew
  -- The steps come into being during the session.
  exact .create (.create hsession (.vector _ rfl)) (.vector _ rfl)

/-- These are the steps of the slacks. -/
theorem slackSteps : engine.setting.SlackSteps pool step steps := by
  refine ⟨?_, ?_, ?_, ?_⟩
  · rintro (_ | _) <;> decide +kernel
  · rintro ⟨_ | _, _ | _⟩ <;> decide +kernel
  · rintro (_ | _) <;> rfl
  · rintro ⟨_ | _, _ | _⟩ <;> rfl

/-- The request for the limit for the slacks. -/
def ask : Action Binary64 :=
  .ask (.quantity (.slackStepLimit half steps))

/-- The request is made with vectors of the pool. -/
theorem ask_known : ask.Known pool := by
  unfold ask
  exact slackSteps.known_slack half

/-- The reply to it and the supply afterwards. -/
def asked : Reply Binary64 Unit × Supply :=
  engine.perform ask pool.supply

/-- After the request the session goes on. -/
theorem session_asked :
    Session (pool.learn asked.1.engine.setting.state asked.2) asked.1.engine := by
  unfold asked
  exact session.perform ask ask_known

/-- And the setting is what it was. -/
theorem setting_asked : asked.1.engine.setting = engine.setting := by
  unfold asked ask
  rw [Engine.setting_of_ask]

end Strip

/-- After the limit for the slacks was asked for, the limit for the
variables is the same half. The undefined entry does not count. -/
theorem Session.stepLimits_agree_strip :
    ((0 : Binary64) < Strip.half ∧ Strip.half ≤ 1)
      ∧ Strip.engine.setting.SlackSteps Strip.pool Strip.step Strip.steps
      ∧ ¬ Scalar.IsNumber Strip.undefined
      ∧ ∃ slack : Binary64, Scalar.Same Strip.half slack
        ∧ (Strip.engine.answer (.quantity (.slackStepLimit Strip.half Strip.steps))
          Strip.pool.supply).1.result.map Shared.value = .ok slack
        ∧ (Strip.asked.1.engine.answer (.quantity (.primalStepLimit Strip.half (Strip.step .x)
          (Strip.step .s))) Strip.asked.2).1.result.map Shared.value = .ok Strip.half := by
  have htau : (0 : Binary64) < Strip.half := by decide +kernel
  have htau' : Strip.half ≤ 1 := by decide +kernel
  have hundefined : ¬ Scalar.IsNumber Strip.undefined := by decide +kernel
  obtain ⟨primal, slack, hsame, hanswers⟩ :=
    Session.stepLimits_agree Strip.session htau htau' Strip.slackSteps
  -- The limit for the slacks is asked for first, that for the variables in a later session.
  have hslack := (hanswers Strip.session ⟨fun _ hv => hv, fun _ hi => hi⟩ rfl
    Strip.pool.supply).2
  have hprimal := (hanswers Strip.session_asked (Pool.learn_sub _ _ _)
    Strip.setting_asked Strip.asked.2).1
  have hhalf : (Strip.asked.1.engine.answer (.quantity (.primalStepLimit Strip.half
      (Strip.step .x) (Strip.step .s))) Strip.asked.2).1.result.map Shared.value
        = .ok Strip.half := by decide +kernel
  cases Except.ok.inj (hprimal.symm.trans hhalf)
  exact ⟨⟨htau, htau'⟩, Strip.slackSteps, hundefined, slack, hsame, hslack, hprimal⟩

end InteriorPoint
