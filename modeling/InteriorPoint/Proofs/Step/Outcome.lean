import Mathlib.Tactic.Ring
import InteriorPoint.Proofs.Step
import InteriorPoint.Proofs.Drawn
import InteriorPoint.Proofs.Engine.Answers

/-!
# `InteriorPoint.Proofs.Step.Outcome`: what comes of a step

A step takes the sizes it checks the direction against from seven of the
eight components of the point. The multipliers of the inequalities are
compared with the slack variables, so their own size is respected only
because every point that can be created has as many of the one as of the
other (`Pool.Reachable.fits`).

With that, a step has one of two outcomes (`Iterate.Outcome`). If a
component of the direction has another size than that of the point, the
step is refused at such a component, before anything was drawn.
Otherwise a point is reached (`Iterate.Reached`), in which a component is
the vector that was there before exactly if its step length is zero.

The kept vector and the sum are two ways to compute one component. In
exact arithmetic they agree, so that two steps along a direction are one
step by the sums of their lengths, whichever of the lengths is zero
(`Iterate.exists_takeStep_takeStep`).
-/

set_option autoImplicit false

namespace InteriorPoint

open Drawing

variable {α : Type} [Scalar α]

/-! ### The sizes of the points that can be created -/

/-- A point that is built has passed the check of its sizes. -/
theorem IterateDraft.build_fits {dims : Dimensions} {draft : IterateDraft α} {iterate : Iterate α}
    {supply supply' : Supply} (hrun : (draft.build dims).run supply = (.ok iterate, supply')) :
    iterate.Fits dims := by
  simp only [build, run_bind_eq_ok, run_lift_eq_ok, run_checked_eq_ok, run_pure_eq_ok] at hrun
  obtain ⟨_, _, -, _, _, -, _, _, -, _, _, -, _, _, ⟨hvalidate, -⟩, rfl, -⟩ := hrun
  exact Iterate.validate_eq_ok.1 hvalidate

omit [Scalar α] in
/-- A point that has been accepted for some sizes has its own sizes in
every component. -/
theorem Iterate.Fits.dimensions {dims : Dimensions} {iterate : Iterate α}
    (h : iterate.Fits dims) : iterate.Fits iterate.dimensions := by
  rw [h.dimensions_eq]
  exact h

/-- Every point that can be created has its own sizes in every component.
What this says beyond the definition of these sizes is that there are as
many multipliers of the inequalities as slack variables. -/
theorem Pool.Reachable.fits {pool : Pool α} (h : pool.Reachable) :
    ∀ i ∈ pool.points, i.Fits i.dimensions := by
  induction h with
  | empty => exact fun _ hmem => absurd hmem List.not_mem_nil
  | step _ hstep ih =>
      cases hstep with
      | draw => exact ih
      | vector => exact ih
      | build dims hgiven hrun =>
          exact List.forall_mem_cons.2 ⟨(IterateDraft.build_fits hrun).dimensions, ih⟩
      -- A point that has moved has the sizes of the one it moved from.
      | move primal dual hbase hrun =>
          exact List.forall_mem_cons.2
            ⟨(Iterate.takeStep_fits (ih _ hbase) hrun).dimensions, ih⟩

namespace Iterate

omit [Scalar α] in
/-- A direction fits a point if every component has the size of that of
the point. -/
theorem fits_dimensions_iff {base direction : Iterate α} (hbase : base.Fits base.dimensions) :
    direction.Fits base.dimensions
      ↔ ∀ part, (direction.component part).size = (base.component part).size :=
  forall_congr' fun part => by rw [hbase part, eq_comm]

/-! ### Refusals -/

/-- A direction that does not fit stops the step before anything is
drawn. -/
theorem takeStep_eq_error {base direction : Iterate α} {error : Error α}
    (hvalidate : direction.validate base.dimensions = .error error) (primal dual : α)
    (supply : Supply) :
    (base.takeStep primal dual direction).run supply = (.error error, supply) := by
  unfold takeStep
  rw [run_bind, hvalidate]
  rfl

omit [Scalar α] in
/-- An iterate is refused at a component of another size. -/
theorem exists_of_validate_eq_error {dims : Dimensions} {iterate : Iterate α} {error : Error α}
    (h : iterate.validate dims = .error error) :
    ∃ part, dims.size part ≠ (iterate.component part).size
      ∧ error = .dimensionMismatch part.sizeContext (dims.size part)
          (iterate.component part).size := by
  obtain ⟨part, -, hpart⟩ := Checked.exists_of_forM_eq_error h
  exact ⟨part, ensureSize_eq_error.1 hpart⟩

/-! ### The point that is reached -/

omit [Scalar α] in
/-- The identity of a component that is new is among the new identities.
-/
theorem mem_tags {iterate : Iterate α} {fresh : Component → Bool} {part : Component}
    (hfresh : fresh part = true) : (iterate.component part).tag ∈ iterate.tags fresh :=
  List.mem_map_of_mem (List.mem_filter.2 ⟨part.mem_all, hfresh⟩)

/-- What a step along `direction` makes of `base`, seen by a program that
has created what is in the pool. -/
structure Reached (pool : Pool α) (base direction : Iterate α) (primal dual : α)
    (reached : Iterate α) : Prop where
  /-- The new point has the sizes of the old one. -/
  size : ∀ part, (reached.component part).size = (base.component part).size
  /-- The primal variables move by `primal` and all multipliers by
  `dual`. -/
  entries : ∀ part, (reached.component part).entries =
    if Scalar.IsZero (part.stepLength primal dual) then (base.component part).entries
    else List.zipWith (· + ·) (base.component part).entries
      ((direction.component part).entries.map (· * part.stepLength primal dual))
  /-- A component is still the same vector exactly if its step length is
  zero. -/
  sameIdentity_iff : ∀ part, (reached.component part).SameIdentity (base.component part)
    ↔ Scalar.IsZero (part.stepLength primal dual)
  /-- Then nothing about it has changed. -/
  kept : ∀ part, Scalar.IsZero (part.stepLength primal dual) →
    reached.component part = base.component part
  /-- Otherwise its identity is later than that of every vector. -/
  component_new : ∀ part, ¬ Scalar.IsZero (part.stepLength primal dual) →
    ∀ v ∈ pool.vectors, v.tag.Before (reached.component part).tag
  /-- The identity of the new point is later than that of every point. -/
  tag_new : ∀ i ∈ pool.points, i.tag.Before reached.tag
  /-- The new identities differ from each other. -/
  distinct : (reached.tag :: reached.tags (Component.moves primal dual)).Nodup

/-- A step that is accepted reaches what `Reached` describes. -/
theorem reached_of_takeStep {pool : Pool α} (hpool : pool.Reachable) {base : Iterate α}
    (hbase : base ∈ pool.points) {direction reached : Iterate α} {primal dual : α}
    {supply : Supply}
    (hrun : (base.takeStep primal dual direction).run pool.supply = (.ok reached, supply)) :
    Reached pool base direction primal dual reached := by
  have hold := hpool.coherent
  obtain ⟨hdrawn, hkept⟩ := drawn_takeStep hrun
  -- What the pool holds was drawn before its supply, and the step draws from there on.
  have hlater : ∀ tag ∈ reached.tag :: reached.tags (Component.moves primal dual),
      ∀ old : Tag, old.number < pool.supply.next → old.Before tag :=
    fun tag hmem old hnumber => Nat.lt_of_lt_of_le hnumber (hdrawn.bounds tag hmem).1
  have hstays : ∀ part, Scalar.IsZero (part.stepLength primal dual) →
      reached.component part = base.component part :=
    fun part hzero => hkept part (by simpa [Component.moves] using hzero)
  have hnew : ∀ part, ¬ Scalar.IsZero (part.stepLength primal dual) →
      ∀ v ∈ pool.vectors, v.tag.Before (reached.component part).tag := by
    intro part hmoves v hv
    have hfresh : Component.moves primal dual part = true := by simpa [Component.moves] using hmoves
    exact hlater _ (List.mem_cons_of_mem _ (mem_tags hfresh)) _ (hold.vector_old v hv)
  constructor
  case size =>
    intro part
    have hbase := hpool.fits base hbase
    rw [← takeStep_fits hbase hrun part, ← hbase part]
  case entries =>
    intro part
    obtain ⟨_, _, hmove⟩ := (moveComponent_of_takeStep hrun).2 part
    exact entries_eq_of_moveComponent hmove
  case sameIdentity_iff =>
    intro part
    constructor
    · -- The vector of the base is in the pool, and a new identity is later than its own.
      intro hsame
      by_contra hmoves
      have hbefore := hnew part hmoves _ (hold.component_mem base hbase part)
      exact absurd (congrArg Tag.number hsame) (Nat.ne_of_gt hbefore)
    · intro hzero
      exact congrArg TaggedVector.tag (hstays part hzero)
  case kept => exact hstays
  case component_new => exact hnew
  case tag_new => exact fun i hi => hlater _ List.mem_cons_self _ (hold.point_old i hi)
  case distinct =>
    refine hdrawn.ordered.imp fun hbefore heq => ?_
    exact absurd (congrArg Tag.number heq) (Nat.ne_of_lt hbefore)

/-- What comes of a step, accepted or refused. -/
structure Outcome (pool : Pool α) (base direction : Iterate α) (primal dual : α) : Prop where
  /-- The step is accepted exactly if all sizes agree. -/
  accepted_iff : (∃ reached supply,
      (base.takeStep primal dual direction).run pool.supply = (.ok reached, supply))
    ↔ ∀ part, (direction.component part).size = (base.component part).size
  /-- A refusal names a component whose sizes differ, and nothing was
  drawn. In particular no operands ever turn out to be misaligned. -/
  refused : ∀ error supply,
    (base.takeStep primal dual direction).run pool.supply = (.error error, supply) →
    supply = pool.supply
      ∧ ∃ part, (base.component part).size ≠ (direction.component part).size
        ∧ error = .dimensionMismatch part.sizeContext (base.component part).size
            (direction.component part).size
  reached : ∀ reached supply,
    (base.takeStep primal dual direction).run pool.supply = (.ok reached, supply) →
    Reached pool base direction primal dual reached

/-- A step from a point that can be created has the outcome described by
`Outcome`. -/
theorem outcome_of_reachable {pool : Pool α} (hpool : pool.Reachable) {base : Iterate α}
    (hbase : base ∈ pool.points) (direction : Iterate α) (primal dual : α) :
    Outcome pool base direction primal dual := by
  have hfits := hpool.fits base hbase
  constructor
  case accepted_iff =>
    rw [← fits_dimensions_iff hfits]
    constructor
    · rintro ⟨reached, supply, hrun⟩
      exact (moveComponent_of_takeStep hrun).1
    · exact fun hdirection => exists_takeStep hfits hdirection primal dual pool.supply
  case refused =>
    intro error supply hrun
    cases hvalidate : (direction.validate base.dimensions : Checked α Unit) with
    | ok =>
        -- A direction that passes the check is never refused later.
        obtain ⟨_, _, haccepted⟩ :=
          exists_takeStep hfits (validate_eq_ok.1 hvalidate) primal dual pool.supply
        exact nomatch haccepted.symm.trans hrun
    | error refusal =>
        cases (takeStep_eq_error hvalidate primal dual pool.supply).symm.trans hrun
        obtain ⟨part, hdiffer, hrefusal⟩ := exists_of_validate_eq_error hvalidate
        rw [hfits part] at hdiffer hrefusal
        exact ⟨rfl, part, hdiffer, hrefusal⟩
  case reached => exact fun reached supply hrun => reached_of_takeStep hpool hbase hrun

end Iterate

/-! ### Two steps in exact arithmetic -/

section
variable {K : Type} [Field K] [LinearOrder K] [ExactFunctions K]

/-- Both lengths of a step add up, each in its own components. -/
theorem Component.stepLength_add (primal dual primal' dual' : K) (part : Component) :
    part.stepLength (primal + primal') (dual + dual')
      = part.stepLength primal dual + part.stepLength primal' dual' := by
  cases part <;> rfl

/-- Two multiples of a vector are added in turn or at once. -/
theorem Linear.zipWith_add_along (base step : List K) (alpha beta : K) :
    List.zipWith (· + ·) (List.zipWith (· + ·) base (step.map (· * alpha)))
        (step.map (· * beta))
      = List.zipWith (· + ·) base (step.map (· * (alpha + beta))) := by
  induction base generalizing step with
  | nil => rfl
  | cons first base ih =>
      cases step with
      | nil => rfl
      | cons length step =>
          simp only [List.map_cons, List.zipWith_cons_cons, ih]
          -- In every entry both lengths multiply the same number.
          rw [add_assoc, ← mul_add]

namespace Iterate

/-- Two steps along a direction that fits are accepted, and they lead
where one step by the sums of the lengths leads. -/
theorem exists_takeStep_takeStep {dims : Dimensions} {base direction : Iterate K}
    (hbase : base.Fits dims) (hdirection : direction.Fits dims) (primal dual primal' dual' : K)
    (supply : Supply) :
    ∃ second direct supply',
      (do
        let first ← base.takeStep primal dual direction
        let second ← first.takeStep primal' dual' direction
        let direct ← base.takeStep (primal + primal') (dual + dual') direction
        return (second, direct) : ExceptT (Error K) Drawing (Iterate K × Iterate K)).run supply
        = (.ok (second, direct), supply')
      ∧ ∀ part, (second.component part).entries = (direct.component part).entries := by
  obtain ⟨first, supply₁, h₁⟩ := exists_takeStep hbase hdirection primal dual supply
  -- The point in between has the same sizes, so the direction fits it as well.
  have hfirst := takeStep_fits hbase h₁
  obtain ⟨second, supply₂, h₂⟩ := exists_takeStep hfirst hdirection primal' dual' supply₁
  obtain ⟨direct, supply₃, h₃⟩ :=
    exists_takeStep hbase hdirection (primal + primal') (dual + dual') supply₂
  refine ⟨second, direct, supply₃, ?_, fun part => ?_⟩
  · simp only [run_bind_eq_ok, run_pure_eq_ok]
    exact ⟨first, supply₁, h₁, second, supply₂, h₂, direct, supply₃, h₃, rfl, rfl⟩
  · -- A component that was kept is described by the sum too, so no case is special.
    rw [component_of_takeStep hfirst hdirection h₂, component_of_takeStep hbase hdirection h₁,
      component_of_takeStep hbase hdirection h₃, Component.stepLength_add]
    exact Linear.zipWith_add_along _ _ _ _

/-- In every number system a step has the outcome described by `Outcome`,
whatever was created before and whatever the lengths. In exact arithmetic
two steps along a direction whose sizes agree are one step by the sums of
their lengths. -/
theorem takeStep_outcome {pool : Pool α} (hpool : pool.Reachable) {base : Iterate α}
    (hbase : base ∈ pool.points) {exactPool : Pool K} (hexact : exactPool.Reachable)
    {start : Iterate K} (hstart : start ∈ exactPool.points) :
    (∀ (direction : Iterate α) (primal dual : α), Outcome pool base direction primal dual)
      ∧ ∀ direction : Iterate K,
          (∀ part, (direction.component part).size = (start.component part).size) →
          ∀ (primal dual primal' dual' : K) (supply : Supply), ∃ second direct supply',
            (do
              let first ← start.takeStep primal dual direction
              let second ← first.takeStep primal' dual' direction
              let direct ← start.takeStep (primal + primal') (dual + dual') direction
              return (second, direct)
              : ExceptT (Error K) Drawing (Iterate K × Iterate K)).run supply
              = (.ok (second, direct), supply')
            ∧ ∀ part, (second.component part).entries = (direct.component part).entries := by
  refine ⟨outcome_of_reachable hpool hbase, fun direction hsizes => ?_⟩
  have hfits := hexact.fits start hstart
  exact exists_takeStep_takeStep hfits ((fits_dimensions_iff hfits).2 hsizes)

/-- A step with primal length minus zero keeps `x` and renews the
multipliers. In exact arithmetic half a step of all components, followed
by one of the primal variables alone, is one step by the sums. -/
theorem takeStep_outcome_halfLine :
    HalfLine.pool.Reachable ∧ HalfLine.current ∈ HalfLine.pool.points
      ∧ Corner.pool.Reachable ∧ Corner.current ∈ Corner.pool.points
      ∧ (∃ reached supply,
          (HalfLine.current.takeStep (-0) 1 HalfLine.trial).run HalfLine.pool.supply
            = (.ok reached, supply)
          ∧ reached.x.SameIdentity HalfLine.current.x
          ∧ ¬ reached.yC.SameIdentity HalfLine.current.yC)
      ∧ ∃ second direct supply',
          (do
            let first ← Corner.current.takeStep (1 / 2) (1 / 2) Corner.direction
            let second ← first.takeStep (1 / 2) 0 Corner.direction
            let direct ← Corner.current.takeStep (1 / 2 + 1 / 2) (1 / 2 + 0) Corner.direction
            return (second, direct)
            : ExceptT (Error ℚ) Drawing (Iterate ℚ × Iterate ℚ)).run Corner.pool.supply
            = (.ok (second, direct), supply')
          ∧ ∀ part, (second.component part).entries = (direct.component part).entries := by
  have hbase : HalfLine.current ∈ HalfLine.pool.points :=
    List.mem_cons_of_mem _ List.mem_cons_self
  have hstart : Corner.current ∈ Corner.pool.points := List.mem_cons_of_mem _ List.mem_cons_self
  obtain ⟨houtcome, hcompose⟩ :=
    takeStep_outcome HalfLine.pool_reachable hbase Corner.pool_reachable hstart
  have hsizes : ∀ part, (HalfLine.trial.component part).size
      = (HalfLine.current.component part).size := by
    rintro (_ | _ | _ | _ | ⟨_ | _, _ | _⟩) <;> rfl
  have hsizes' : ∀ part, (Corner.direction.component part).size
      = (Corner.current.component part).size := by
    rintro (_ | _ | _ | _ | ⟨_ | _, _ | _⟩) <;> rfl
  refine ⟨HalfLine.pool_reachable, hbase, Corner.pool_reachable, hstart, ?_,
    hcompose Corner.direction hsizes' _ _ _ _ _⟩
  have hstep := houtcome HalfLine.trial (-0) 1
  obtain ⟨reached, supply, hrun⟩ := hstep.accepted_iff.2 hsizes
  have hreached := hstep.reached reached supply hrun
  -- Minus zero is a step length of zero, and one is not.
  refine ⟨reached, supply, hrun, (hreached.sameIdentity_iff .x).2 (by decide +kernel), ?_⟩
  exact fun hsame => absurd ((hreached.sameIdentity_iff .yC).1 hsame) (by decide +kernel)

end Iterate

end

end InteriorPoint
