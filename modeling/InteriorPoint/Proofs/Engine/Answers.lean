import Mathlib.Algebra.Order.Field.Rat
import InteriorPoint.Proofs.Engine.Transparency
import InteriorPoint.Proofs.Scalar.Exact

/-!
# `InteriorPoint.Proofs.Engine.Answers`: answers that do not change

An engine answers a request with a value (`Engine.Answers`) if it does so
now and at every later moment at which it has come to the same setting,
whatever was asked in between and whatever is stored. In a session the
values of the quantities are such answers (`Session.answers_of_value`),
and there are no others: a request that is answered once is answered with
the value (`Session.value_of_answer`). So several answers can be compared
as if they were given at once.

All this is about quantities whose stored results can only stand for
themselves (`Slot.Rigid`). In exact arithmetic these are all of them. In
other number systems four quantities are left out, for which a zero of
the answer may have either sign.
-/

set_option autoImplicit false

namespace InteriorPoint

section
variable {α : Type} [Scalar α]

/-- The engine answers a request with a value, and so does every session
that has come to the same setting, whatever is stored there. -/
structure Engine.Answers (engine : Engine α) {k : Kind} (request : Request α k)
    (value : Carrier α k) : Prop where
  now : ∀ supply, (engine.answer request supply).1.result.map Shared.value = .ok value
  always : ∀ {pool : Pool α} {later : Engine α}, Session pool later →
    later.setting = engine.setting → ∀ supply,
      (later.answer request supply).1.result.map Shared.value = .ok value

/-- An engine has one answer to a request. -/
theorem Engine.Answers.unique {engine : Engine α} {k : Kind} {request : Request α k}
    {value value' : Carrier α k} (h : engine.Answers request value)
    (h' : engine.Answers request value') : value = value' :=
  Except.ok.inj ((h.now {}).symm.trans (h'.now {}))

section
variable [LawfulComparison α] [LawfulZero α] {pool : Pool α} {engine : Engine α}
  (h : Session pool engine) {k : Kind} {request : Request α k} {quantity : Quantity α k}
  (hrigid : request.slot.Rigid α)
  (hresolve : request.resolve engine.setting.state = .ok quantity) {value : Carrier α k}
include h hrigid hresolve

/-- What an engine answers in a session is the value of the quantity. -/
theorem Session.answer_eq_value (hknown : request.Known pool) (supply : Supply) :
    (engine.answer request supply).1.result.map Shared.value
      = engine.setting.value quantity := by
  obtain ⟨hpool, hstate⟩ := h.coherent_known
  have hanswer := Engine.answer_transparent hpool hstate h.explained hknown supply
  rw [hresolve] at hanswer
  exact hrigid.eq_of_rel hanswer

/-- A request that is answered once has the answer for its value. -/
theorem Session.value_of_answer (hknown : request.Known pool) {supply : Supply}
    (hanswer : (engine.answer request supply).1.result.map Shared.value = .ok value) :
    engine.setting.value quantity = .ok value := by
  rw [← h.answer_eq_value hrigid hresolve hknown supply]
  exact hanswer

/-- A request that names no vector of its own is answered with the value
of the quantity, now and later. -/
theorem Session.answers_of_value (hknown : ∀ pool, request.Known pool)
    (hvalue : engine.setting.value quantity = .ok value) : engine.Answers request value := by
  have halways : ∀ {pool : Pool α} {later : Engine α}, Session pool later →
      later.setting = engine.setting → ∀ supply,
        (later.answer request supply).1.result.map Shared.value = .ok value := by
    intro pool later h hsetting supply
    rw [← hsetting] at hresolve hvalue
    rw [h.answer_eq_value hrigid hresolve (hknown pool) supply, hvalue]
  exact ⟨halways h rfl, halways⟩

end

omit [Scalar α] in
/-- A quantity without vectors of its own is known from the start. -/
theorem Request.known_quantity {k : Kind} {quantity : Quantity α k}
    (hvectors : quantity.vectors = []) (pool : Pool α) :
    (Request.quantity quantity).Known pool := by
  intro v hv
  rw [hvectors] at hv
  exact absurd hv List.not_mem_nil

/-- A quantity without vectors of its own that has a value is answered
with it, now and later. -/
theorem Session.answers_quantity [LawfulComparison α] [LawfulZero α] {pool : Pool α}
    {engine : Engine α} (h : Session pool engine) {k : Kind} {quantity : Quantity α k}
    {value : Carrier α k} (hrigid : quantity.slot.Rigid α) (hvectors : quantity.vectors = [])
    (hvalue : engine.setting.value quantity = .ok value) :
    engine.Answers (.quantity quantity) value := by
  have hslot : (Request.quantity quantity).slot.Rigid α := hrigid
  exact h.answers_of_value hslot rfl (Request.known_quantity hvectors) hvalue

/-! ### What the settings of an engine were checked for -/

/-- Options that were accepted are in their ranges. -/
theorem Options.inRange_of_validate {options : Options α}
    (h : (options.validate : Checked α Unit) = .ok ()) :
    inRange 1 options.multiplierThreshold = true ∧ inRange 0 options.dampingWeight = true
      ∧ inRange 0 options.boundMove = true := by
  unfold validate at h
  -- The checks in their order, each of which ends the validation if it fails.
  by_cases hthreshold : inRange 1 options.multiplierThreshold = true
  · by_cases hweight : inRange 0 options.dampingWeight = true
    · by_cases hmove : inRange 0 options.boundMove = true
      · exact ⟨hthreshold, hweight, hmove⟩
      · rw [if_pos hthreshold, if_pos hweight, if_neg hmove] at h
        cases h
    · rw [if_pos hthreshold, if_neg hweight] at h
      cases h
  · rw [if_neg hthreshold] at h
    cases h

/-- A value in a range is at least the least value of it. -/
theorem Options.le_of_inRange {least value : α} (h : inRange least value = true) :
    least ≤ value := by
  simp only [inRange, Bool.and_eq_true, decide_eq_true_eq] at h
  exact h.2

/-- The options of a session were accepted. -/
theorem Session.validate_options {pool : Pool α} {engine : Engine α} (h : Session pool engine) :
    (engine.setting.options.validate : Checked α Unit) = .ok () :=
  (Engine.new_eq_ok.1 h.reachable.wellFormed.new_eq_ok).1

end

section
variable {K : Type} [Field K] [LinearOrder K] [ExactFunctions K] {pool : Pool K}
  {engine : Engine K}

/-- In a session the barrier parameter is not negative. -/
theorem Session.mu_nonneg (h : Session pool engine) : 0 ≤ engine.setting.mu :=
  (State.ensureMu_eq_ok.1 h.reachable.ensureMu).2

/-- Neither is the damping weight. -/
theorem Session.dampingWeight_nonneg (h : Session pool engine) :
    0 ≤ engine.setting.options.dampingWeight :=
  Options.le_of_inRange (Options.inRange_of_validate h.validate_options).2.1

/-- Multipliers are averaged down to a threshold of at least one. -/
theorem Session.one_le_multiplierThreshold (h : Session pool engine) :
    1 ≤ engine.setting.options.multiplierThreshold :=
  Options.le_of_inRange (Options.inRange_of_validate h.validate_options).1

end

/-! ### A small session in rational arithmetic

Two variables, both bounded below and the second one above as well, one
equality, and one inequality that is bounded above. The first variable
lies on its bound, so its slack is corrected. No multiplier is zero, and
the search direction leads to the bounds. -/

namespace Corner

/-- The rational numbers. Roots and logarithms are left out, and nothing
that is said of this session reads them. -/
instance : ExactFunctions ℚ where
  sqrt _ := 0
  log _ := 0

/-- Both of two coordinates. -/
def both : Selection where
  dim := 2
  indices := [0, 1]
  increasing := by decide
  bounded := by decide

/-- The second of two coordinates. -/
def second : Selection where
  dim := 2
  indices := [1]
  increasing := by decide
  bounded := by decide

/-- A single coordinate. -/
def single : Selection :=
  HalfLine.problem.xBounds.lower.selection

/-- Minimize `x₀` subject to `x₀ + x₁ = 3`, `x₀ ≤ 3`, `0 ≤ x` and
`x₁ ≤ 4`. -/
def problem : Problem ℚ where
  xBounds :=
    { lower :=
        { selection := both
          values := [0, 0]
          aligned := rfl }
      upper :=
        { selection := second
          values := [4]
          aligned := rfl }
      same_dim := rfl }
  dBounds :=
    { lower := .none 1
      upper :=
        { selection := single
          values := [3]
          aligned := rfl }
      same_dim := rfl }
  equalities := 1
  callbacks :=
    { objective := fun x => x.headD 0
      gradient := fun _ => [1, 0]
      constraint := fun
        | .equality, x => [x.sum - 3]
        | .inequality, x => [x.headD 0]
      jacobian := fun
        | .equality, _ => .dense (.ofFn 1 2 fun _ _ => 1)
        | .inequality, _ => .dense (.ofFn 1 2 fun _ j => if j = 0 then 1 else 0)
      hessian := fun _ _ _ _ => .zero 2 2 }

/-- Options with a damping weight. -/
def options : Options ℚ where
  violationNorm := .one
  multiplierThreshold := 1
  dampingWeight := 1
  boundMove := 1

/-- The vector that is made from its entries when `n` is the next
number. -/
def vector (n : Nat) (entries : List ℚ) : TaggedVector ℚ :=
  ⟨⟨n⟩, ⟨n + 1, entries⟩⟩

/-- A point on the bound of the first variable. -/
def current : Iterate ℚ where
  tag := ⟨33⟩
  x := vector 1 [0, 2]
  s := vector 3 [1]
  yC := vector 5 [2]
  yD := vector 7 [1]
  multipliers := ⟨vector 9 [2, 1], vector 11 [1], vector 13 [], vector 15 [1]⟩

/-- A direction towards the bounds. -/
def direction : Iterate ℚ where
  tag := ⟨34⟩
  x := vector 17 [1, -4]
  s := vector 19 [1]
  yC := vector 21 [0]
  yD := vector 23 [0]
  multipliers := ⟨vector 25 [-4, 1], vector 27 [1], vector 29 [], vector 31 [1]⟩

/-- The draft that gives every component of a point. -/
def draft (iterate : Iterate ℚ) : IterateDraft ℚ where
  x := iterate.x
  s := iterate.s
  yC := some iterate.yC
  yD := some iterate.yD
  multipliers := .ofFn fun family => some (iterate.multipliers.get family)

/-- The components of both points, made one after the other. -/
def vectors : Pool ℚ :=
  ((current.components ++ direction.components).map TaggedVector.entries).foldl
    (fun pool entries =>
      pool.addVector (vector pool.supply.next entries) ⟨pool.supply.next + 2⟩) {}

/-- Everything that is made before the engine is set up. -/
def pool : Pool ℚ :=
  (vectors.addPoint current ⟨34⟩).addPoint direction ⟨35⟩

/-- Vectors can be made one after the other, by induction on their list. -/
theorem reachable_foldl (lists : List (List ℚ)) {pool : Pool ℚ} (h : pool.Reachable) :
    (lists.foldl (fun pool entries =>
      pool.addVector (vector pool.supply.next entries) ⟨pool.supply.next + 2⟩) pool).Reachable := by
  induction lists generalizing pool with
  | nil => exact h
  | cons entries lists ih => exact ih (.step h (.vector entries rfl))

/-- The pool comes about by making the vectors and then the two points. -/
theorem pool_reachable : pool.Reachable := by
  have hvectors : vectors.Reachable := reachable_foldl _ .empty
  have hcurrent : ∀ v ∈ (draft current).given, v ∈ vectors.vectors := by decide +kernel
  have hdirection : ∀ v ∈ (draft direction).given,
      v ∈ (vectors.addPoint current ⟨34⟩).vectors := by decide +kernel
  exact .step (.step hvectors (.build problem.dimensions hcurrent rfl))
    (.build problem.dimensions hdirection rfl)

/-- The state at the current point, with the direction set. -/
def state : State ℚ where
  dims := problem.dimensions
  current := current
  trial := none
  direction := some direction
  mu := 1
  iterations := 0

/-- The engine that was just set up. -/
def engine : Engine ℚ where
  setting :=
    { problem, state, options
      damping := dampingIndicators problem.xBounds problem.dBounds }
  store := {}
  adjusted := ⟨0, 0, 0, 0⟩

/-- The session begins with this engine. -/
theorem session : Session (pool.learn state ⟨35⟩) engine := by
  have hstart : State.start problem.dimensions current 1
      = .ok { state with direction := none } := rfl
  have harises : State.Arises pool { state with direction := none } :=
    .start pool_reachable (List.mem_cons_of_mem _ List.mem_cons_self) hstart
  have hnew : Engine.new problem state options = .ok engine := rfl
  exact .new (harises.change (.direction direction) List.mem_cons_self rfl) hnew

end Corner

end InteriorPoint
