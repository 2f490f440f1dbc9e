import InteriorPoint.Proofs.Engine.Run
import InteriorPoint.Proofs.Quantity.Determined
import InteriorPoint.Scalar.Binary64

/-!
# `InteriorPoint.Proofs.Session`: engines that are used with what exists

A session is an engine together with the pool of everything that was
created so far. Its requests and changes name vectors and points of the
pool, and a point that the engine creates on the way joins the pool
(`Pool.learn`). The functions of the problem stay the same throughout:
they are functions of their arguments and of nothing else.

`Session` is every session that can come about. In each of them the pool
is coherent and knows the points of the state
(`Session.coherent_known`). `HalfLine.session` is a small one in double
precision.
-/

set_option autoImplicit false

namespace InteriorPoint

variable {α : Type} [Scalar α]

/-! ### Growing pools -/

namespace Pool

/-- The second pool has the vectors and points of the first. -/
structure Sub (pool larger : Pool α) : Prop where
  vectors : ∀ v ∈ pool.vectors, v ∈ larger.vectors
  points : ∀ i ∈ pool.points, i ∈ larger.points

section
omit [Scalar α]

/-- Drawing identities removes nothing. -/
theorem draw_sub (pool : Pool α) (supply : Supply) : pool.Sub { pool with supply } :=
  ⟨fun _ hv => hv, fun _ hi => hi⟩

/-- Adding a vector removes nothing. -/
theorem addVector_sub (pool : Pool α) (v : TaggedVector α) (supply : Supply) :
    pool.Sub (pool.addVector v supply) :=
  ⟨fun _ hv => List.mem_cons_of_mem _ hv, fun _ hi => hi⟩

/-- Adding a point removes nothing. -/
theorem addPoint_sub (pool : Pool α) (iterate : Iterate α) (supply : Supply) :
    pool.Sub (pool.addPoint iterate supply) :=
  ⟨fun _ hv => mem_addPoint.2 (Or.inr hv), fun _ hi => List.mem_cons_of_mem _ hi⟩

end

/-- Whatever happens to a pool, it only grows. -/
theorem Step.sub {pool pool' : Pool α} (h : Step pool pool') : pool.Sub pool' := by
  cases h with
  | draw => exact pool.draw_sub _
  | vector => exact pool.addVector_sub _ _
  | build => exact pool.addPoint_sub _ _
  | move => exact pool.addPoint_sub _ _

/-- The pool after an operation that left a state and a supply: it knows
the trial point of the state. -/
def learn (pool : Pool α) (state : State α) (supply : Supply) : Pool α :=
  match state.trial with
  | some trial => pool.addPoint trial supply
  | none => { pool with supply }

omit [Scalar α] in
/-- A pool that learns a trial point only grows. -/
theorem learn_sub (pool : Pool α) (state : State α) (supply : Supply) :
    pool.Sub (pool.learn state supply) := by
  unfold learn
  split
  · exact pool.addPoint_sub _ _
  · exact pool.draw_sub _

end Pool

omit [Scalar α] in
/-- What a pool knows, a larger one knows. -/
theorem State.Known.mono {pool larger : Pool α} (hsub : pool.Sub larger) {state : State α}
    (h : state.Known pool) : state.Known larger :=
  ⟨hsub.points _ h.current, fun i hi => hsub.points i (h.trial i hi),
    fun i hi => hsub.points i (h.direction i hi)⟩

omit [Scalar α] in
/-- The vectors of a request stay known as well. -/
theorem Quantity.Known.mono {pool larger : Pool α} (hsub : pool.Sub larger) {k : Kind}
    {quantity : Quantity α k} (h : quantity.Known pool) : quantity.Known larger :=
  fun v hv => hsub.vectors v (h v hv)

/-! ### Arguments from the pool -/

/-- The point that a change names is known to the pool. -/
def State.Change.Known {α : Type} (pool : Pool α) : State.Change α → Prop
  | .trial iterate | .direction iterate => iterate ∈ pool.points
  | _ => True

/-- The vectors that a request names are known to the pool. -/
def Request.Known {α : Type} (pool : Pool α) : {k : Kind} → Request α k → Prop
  | _, .quantity q => q.Known pool
  | _, _ => True

/-- What an operation names is known to the pool, and it leaves the
functions of the problem alone. -/
def Action.Known {α : Type} (pool : Pool α) : Action α → Prop
  | .ask request => request.Known pool
  | .change c => c.Known pool
  | .setCallbacks _ => False
  | _ => True

omit [Scalar α] in
/-- Components of known points are known. -/
theorem Request.Known.known_of_resolve {pool : Pool α} {k : Kind} {request : Request α k}
    (h : request.Known pool) (hpool : pool.Coherent) {state : State α} (hstate : state.Known pool)
    {quantity : Quantity α k} (hresolve : request.resolve state = .ok quantity) :
    quantity.Known pool := by
  -- A request without arguments takes them from the points of the state.
  have hcurrent := hpool.component_mem state.current hstate.current
  cases request with
  | quantity quantity =>
      cases hresolve
      exact h
  | jacobianTransposeTimesMultipliers group =>
      cases group with
      | equality =>
          cases hresolve
          exact List.forall_mem_singleton.2 (hcurrent .yC)
      | inequality =>
          cases hresolve
          exact List.forall_mem_singleton.2 (hcurrent .yD)
  | primalStepLimitAlongDirection tau =>
      simp only [Request.resolve, Checked.bind_eq_ok, Checked.pure_eq_ok] at hresolve
      obtain ⟨direction, hdirection, rfl⟩ := hresolve
      have hpart := hpool.component_mem direction (hstate.requireDirection hdirection)
      exact List.forall_mem_cons.2 ⟨hpart .x, List.forall_mem_singleton.2 (hpart .s)⟩
  | dualStepLimitAlongDirection tau =>
      simp only [Request.resolve, Checked.bind_eq_ok, Checked.pure_eq_ok] at hresolve
      obtain ⟨direction, hdirection, rfl⟩ := hresolve
      have hpart := hpool.component_mem direction (hstate.requireDirection hdirection)
      rintro v hv
      simp only [Quantity.vectors, PerFamily.toList, List.mem_cons, List.not_mem_nil,
        or_false] at hv
      rcases hv with rfl | rfl | rfl | rfl
      · exact hpart (.multiplier .xLower)
      · exact hpart (.multiplier .xUpper)
      · exact hpart (.multiplier .sLower)
      · exact hpart (.multiplier .sUpper)

/-! ### Sessions -/

/-- The states that an optimizer can be in, with what was created so
far. -/
inductive State.Arises : Pool α → State α → Prop where
  | start {pool : Pool α} {dims : Dimensions} {initial : Iterate α} {mu : α} {state : State α}
      (hpool : pool.Reachable) (hinitial : initial ∈ pool.points)
      (hstart : State.start dims initial mu = .ok state) : State.Arises pool state
  | create {pool pool' : Pool α} {state : State α} (h : State.Arises pool state)
      (hstep : pool.Step pool') : State.Arises pool' state
  | change {pool : Pool α} {state state' : State α} (h : State.Arises pool state)
      (change : State.Change α) (hknown : change.Known pool) {supply : Supply}
      (hrun : (state.change change).run pool.supply = (.ok state', supply)) :
      State.Arises (pool.learn state' supply) state'

/-- The engines that can come about, with what was created so far. -/
inductive Session : Pool α → Engine α → Prop where
  | new {pool : Pool α} {problem : Problem α} {state : State α} {options : Options α}
      {engine : Engine α} (hstate : State.Arises pool state)
      (hnew : Engine.new problem state options = .ok engine) : Session pool engine
  | create {pool pool' : Pool α} {engine : Engine α} (h : Session pool engine)
      (hstep : pool.Step pool') : Session pool' engine
  | perform {pool : Pool α} {engine : Engine α} (h : Session pool engine) (action : Action α)
      (hknown : action.Known pool) :
      Session
        (pool.learn (engine.perform action pool.supply).1.engine.setting.state
          (engine.perform action pool.supply).2)
        (engine.perform action pool.supply).1.engine

omit [Scalar α] in
/-- A state whose points are known is still such a state after the pool
learned its trial point once more. -/
theorem Pool.Coherent.learn {pool : Pool α} (hpool : pool.Coherent) {state : State α}
    (hstate : state.Known pool) {supply : Supply} (hlater : pool.supply.next ≤ supply.next) :
    (pool.learn state supply).Coherent ∧ state.Known (pool.learn state supply) := by
  refine ⟨?_, hstate.mono (pool.learn_sub state supply)⟩
  unfold Pool.learn
  split
  · rename_i trial htrial
    exact hpool.addPoint_of_mem (hstate.trial trial htrial) hlater
  · exact hpool.draw hlater

/-- A change that succeeds keeps the pool coherent and the points of the
state known. -/
theorem State.Changed.learn {pool : Pool α} (hpool : pool.Coherent) {state state' : State α}
    {change : State.Change α} {supply : Supply} (hstate : state.Known pool)
    (hknown : change.Known pool)
    (h : State.Changed state pool.supply change state' supply) :
    (pool.learn state' supply).Coherent ∧ state'.Known (pool.learn state' supply) := by
  cases h with
  | mu =>
      refine hpool.learn ?_ (Nat.le_refl _)
      exact ⟨hstate.current, hstate.trial, hstate.direction⟩
  | trial =>
      refine hpool.learn ?_ (Nat.le_refl _)
      refine ⟨hstate.current, ?_, hstate.direction⟩
      rintro i ⟨⟩
      exact hknown
  | direction =>
      refine hpool.learn ?_ (Nat.le_refl _)
      refine ⟨hstate.current, hstate.trial, ?_⟩
      rintro i ⟨⟩
      exact hknown
  | trialFromStep hdirection hstep =>
      -- The only change that creates a point.
      refine ⟨hpool.move hstate.current hstep, ?_, ?_, ?_⟩
      · exact List.mem_cons_of_mem _ hstate.current
      · rintro i ⟨⟩
        exact List.mem_cons_self
      · exact fun i hi => List.mem_cons_of_mem _ (hstate.direction i hi)
  | acceptTrial htrial =>
      refine hpool.learn ?_ (Nat.le_refl _)
      exact ⟨hstate.trial _ htrial, by simp, by simp⟩

/-- The pool that a state arises with is coherent, and knows the points of
the state. -/
theorem State.Arises.coherent_known {pool : Pool α} {state : State α}
    (h : State.Arises pool state) : pool.Coherent ∧ state.Known pool := by
  induction h with
  | start hpool hinitial hstart =>
      simp only [State.start, Checked.bind_eq_ok, Checked.pure_eq_ok] at hstart
      obtain ⟨_, -, _, -, rfl⟩ := hstart
      exact ⟨hpool.coherent, hinitial, by simp, by simp⟩
  -- What is created beside the state concerns the pool only.
  | create _ hstep ih => exact ⟨hstep.coherent ih.1, ih.2.mono hstep.sub⟩
  | change _ change hknown hrun ih =>
      exact (State.changed_of_run hrun).learn ih.1 ih.2 hknown

/-- A state that arises is one that can be reached. -/
theorem State.Arises.reachable {pool : Pool α} {state : State α} (h : State.Arises pool state) :
    state.Reachable := by
  induction h with
  | start _ _ hstart => exact .start hstart
  | create _ _ ih => exact ih
  | change _ change _ hrun ih => exact .change ih change hrun

/-- An operation keeps the pool coherent and the points of the state
known. -/
theorem Engine.Performed.learn {pool : Pool α} (hpool : pool.Coherent) {engine engine' : Engine α}
    {action : Action α} {events : List (Event α)} {supply : Supply}
    (hstate : engine.setting.state.Known pool) (hknown : action.Known pool)
    (h : Engine.Performed engine pool.supply action engine' events supply) :
    (pool.learn engine'.setting.state supply).Coherent
      ∧ engine'.setting.state.Known (pool.learn engine'.setting.state supply) := by
  cases h with
  | refused hlater => exact hpool.learn hstate hlater
  -- A request may draw identities for results, and creates no point.
  | @answered _ _ quantity =>
      have hforward := Memory.evaluate_forward engine.setting quantity (engine.memory pool.supply)
      exact hpool.learn hstate hforward
  | changed hchange => exact hchange.learn hpool hstate hknown
  | options => exact hpool.learn hstate (Nat.le_refl _)
  | callbacks => exact hpool.learn hstate (Nat.le_refl _)
  | cleared => exact hpool.learn hstate (Nat.le_refl _)
  | reset => exact hpool.learn hstate (Nat.le_refl _)

/-- In every session the pool is coherent, and it knows the points of the
state. -/
theorem Session.coherent_known {pool : Pool α} {engine : Engine α} (h : Session pool engine) :
    pool.Coherent ∧ engine.setting.state.Known pool := by
  induction h with
  -- A new engine has the state that it was given.
  | new hstate hnew =>
      obtain ⟨-, -, rfl⟩ := Engine.new_eq_ok.1 hnew
      exact hstate.coherent_known
  | create _ hstep ih => exact ⟨hstep.coherent ih.1, ih.2.mono hstep.sub⟩
  | perform _ action hknown ih =>
      exact (Engine.performed_perform _ action _).learn ih.1 ih.2 hknown

/-- The engine of a session is one that can be reached. -/
theorem Session.reachable {pool : Pool α} {engine : Engine α} (h : Session pool engine) :
    engine.Reachable := by
  induction h with
  | new hstate hnew => exact .new hstate.reachable hnew
  | create _ _ ih => exact ih
  | perform _ action _ ih => exact .perform ih action _

/-! ### A small session

One variable on the half line `0 ≤ x`, in double precision. The current
point lies on the bound, and there is a trial point. -/

namespace HalfLine

/-- Minimize `x` subject to `0 ≤ x`. -/
def problem : Problem Binary64 where
  xBounds :=
    { lower :=
        { selection := { dim := 1, indices := [0], increasing := by simp, bounded := by simp }
          values := [0]
          aligned := rfl }
      upper := .none 1
      same_dim := rfl }
  dBounds := .free 0
  equalities := 0
  callbacks :=
    { objective := fun x => x.headD 0
      gradient := fun x => x.map fun _ => 1
      constraint := fun _ _ => []
      jacobian := fun _ x => .dense (.zero 0 x.length)
      hessian := fun x _ _ _ => .zero x.length x.length }

/-- Settings under which nothing is damped and no bound moves. -/
def options : Options Binary64 where
  violationNorm := .one
  multiplierThreshold := 1
  dampingWeight := 0
  boundMove := 0

/-- The vector that is made from its entries when `n` is the next
number. -/
def vector (n : Nat) (entries : List Binary64) : TaggedVector Binary64 :=
  ⟨⟨n⟩, ⟨n + 1, entries⟩⟩

/-- The point that is completed from `x` and `s` when `n` is the next
number. -/
def point (n : Nat) (x s : TaggedVector Binary64) : Iterate Binary64 where
  tag := ⟨n⟩
  x := x
  s := s
  yC := vector (n + 1) []
  yD := vector (n + 3) []
  multipliers :=
    ⟨vector (n + 5) [0], vector (n + 7) [], vector (n + 9) [], vector (n + 11) []⟩

/-- The primal variables of both points. -/
def vectors : Pool Binary64 :=
  ((Pool.addVector {} (vector 1 []) ⟨3⟩).addVector (vector 3 [0]) ⟨5⟩).addVector (vector 5 [1]) ⟨7⟩

/-- The point on the bound. -/
def current : Iterate Binary64 :=
  point 7 (vector 3 [0]) (vector 1 [])

/-- A point in the interior. -/
def trial : Iterate Binary64 :=
  point 20 (vector 5 [1]) (vector 1 [])

/-- Both vectors of primal variables, with the two points that are
completed from them. -/
def pool : Pool Binary64 :=
  (vectors.addPoint current ⟨20⟩).addPoint trial ⟨33⟩

/-- The pool of the session can come about, vector by vector and point by
point. -/
theorem pool_reachable : pool.Reachable := by
  have hvectors : vectors.Reachable :=
    .step (.step (.step .empty (.vector [] rfl)) (.vector [0] rfl)) (.vector [1] rfl)
  -- Each point is completed from vectors that exist by then.
  have hcurrent : ∀ v ∈ (IterateDraft.ofPrimal (vector 3 [0]) (vector 1 [])).given,
      v ∈ vectors.vectors := by decide +kernel
  have htrial : ∀ v ∈ (IterateDraft.ofPrimal (vector 5 [1]) (vector 1 [])).given,
      v ∈ (vectors.addPoint current ⟨20⟩).vectors := by decide +kernel
  exact .step (.step hvectors (.build problem.dimensions hcurrent rfl))
    (.build problem.dimensions htrial rfl)

/-- The state with the trial point set. -/
def state : State Binary64 where
  dims := problem.dimensions
  current := current
  trial := some trial
  direction := none
  mu := 1
  iterations := 0

/-- A new engine, which has computed nothing yet. -/
def engine : Engine Binary64 where
  setting :=
    { problem, state, options
      damping := dampingIndicators problem.xBounds problem.dBounds }
  store := {}
  adjusted := ⟨0, 0, 0, 0⟩

/-- The state arises from its start by setting the trial point. -/
theorem arises : State.Arises (pool.learn state ⟨33⟩) state := by
  have hinitial : State.start problem.dimensions current 1 = .ok { state with trial := none } := rfl
  have hstart : State.Arises pool { state with trial := none } :=
    .start pool_reachable (List.mem_cons_of_mem _ List.mem_cons_self) hinitial
  exact hstart.change (.trial trial) List.mem_cons_self rfl

/-- The engine is made without a refusal. -/
theorem new_eq_ok : Engine.new problem state options = .ok engine :=
  rfl

/-- Together they are a session. -/
theorem session : Session (pool.learn state ⟨33⟩) engine :=
  .new arises new_eq_ok

end HalfLine

end InteriorPoint
