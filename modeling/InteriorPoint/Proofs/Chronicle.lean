import InteriorPoint.Proofs.Drawn
import InteriorPoint.Proofs.Session
import Mathlib.Data.List.Basic

/-!
# `InteriorPoint.Proofs.Chronicle`: identity determines content

Every key of a cache rests on identities: equal ones have to mean equal
content, different origins have to mean different identities, and what is
created later has to have the greater one. These are statements about all
vectors and points that exist, wherever they came from, and about when
they came into being.

A `Chronicle` records both. It lists the identities of all vectors and
points in the order of their creation, and it keeps every vector and
every point with the place of its creation in this list (`Born`,
`BornPoint`). A copy has the place of what it was copied from, and so has
a component that a step of length zero leaves alone. The places are not
computed from the identities, so that the two can be compared.

`Chronicle.Step` has one case for each way to create, copy or move
something, the operations on states among them (`Reachable.exists_step`:
none of these is left out). Nothing is ever forgotten, so what holds of
everything in a chronicle holds of whatever part of it is still in use.

`Faithful` is kept by every step: the identity of a vector or point is
the one that the list has at its place. That the list is in order comes
from `Drawn`, and the content comes from the pools, which do not know
about time (`Pool.Coherent`).
-/

set_option autoImplicit false

namespace InteriorPoint

variable {α : Type}

/-! ### Chronicles -/

/-- A value with the place of its creation. -/
structure Born (β : Type) where
  value : β
  birth : Nat
deriving DecidableEq

/-- A point with the places of its creation and that of its
components. -/
structure BornPoint (α : Type) where
  iterate : Iterate α
  birth : Nat
  parts : Component → Nat

/-- Everything that was created, in time. -/
structure Chronicle (α : Type) where
  supply : Supply := {}
  /-- The identities of vectors and points, in order of creation. -/
  created : List Tag := []
  vectors : List (Born (TaggedVector α)) := []
  points : List (BornPoint α) := []
  states : List (State α) := []

/-- Ways to make a vector. -/
inductive Making (α : Type) where
  | ofList (entries : List α)
  | replicate (size : Nat) (entry : α)
  | zeros (size : Nat)

/-- Makes a vector. -/
def Making.run [Scalar α] : Making α → Drawing (TaggedVector α)
  | .ofList entries => TaggedVector.ofList entries
  | .replicate size entry => TaggedVector.replicate size entry
  | .zeros size => TaggedVector.zeros size

/-- All ways to make a vector are making it from a list. -/
theorem Making.exists_ofList [Scalar α] (making : Making α) :
    ∃ entries, making.run = TaggedVector.ofList entries := by
  cases making with
  | ofList entries => exact ⟨entries, rfl⟩
  | replicate size entry => exact ⟨List.replicate size entry, rfl⟩
  | zeros size => exact ⟨List.replicate size 0, rfl⟩

namespace Chronicle

/-- The chronicle without times. -/
def pool (chronicle : Chronicle α) : Pool α where
  supply := chronicle.supply
  vectors := chronicle.vectors.map Born.value
  points := chronicle.points.map BornPoint.iterate

/-- A vector was created. -/
def addVector (chronicle : Chronicle α) (v : TaggedVector α) (supply : Supply) : Chronicle α :=
  { chronicle with
    supply
    created := chronicle.created ++ [v.tag]
    vectors := ⟨v, chronicle.created.length⟩ :: chronicle.vectors }

/-- The places of the components of a point that is created now. The
fresh components follow the point in order, and the others have the place
that they had. -/
def places (chronicle : Chronicle α) (fresh : Component → Bool) (old : Component → Nat)
    (part : Component) : Nat :=
  if fresh part then chronicle.created.length + 1 + (Component.all.filter fresh).idxOf part
  else old part

/-- A point was created, together with its fresh components. -/
def addPoint (chronicle : Chronicle α) (iterate : Iterate α) (fresh : Component → Bool)
    (old : Component → Nat) (supply : Supply) : Chronicle α :=
  let parts := chronicle.places fresh old
  { chronicle with
    supply
    created := chronicle.created ++ iterate.tag :: iterate.tags fresh
    vectors :=
      (Component.all.map fun part => ⟨iterate.component part, parts part⟩) ++ chronicle.vectors
    points := ⟨iterate, chronicle.created.length, parts⟩ :: chronicle.points }

variable [Scalar α]

/-- Something is created, copied or moved, or an attempt to do so is
refused. -/
inductive Step : Chronicle α → Chronicle α → Prop where
  /-- Identities are drawn for other purposes. -/
  | draw {c : Chronicle α} (supply : Supply) (hlater : c.supply.next ≤ supply.next) :
      Step c { c with supply }
  | make {c : Chronicle α} (making : Making α) {v : TaggedVector α} {supply : Supply}
      (hrun : making.run c.supply = (v, supply)) : Step c (c.addVector v supply)
  | copyVector {c : Chronicle α} {v : Born (TaggedVector α)} (hv : v ∈ c.vectors) :
      Step c { c with vectors := v :: c.vectors }
  | copyPoint {c : Chronicle α} {i : BornPoint α} (hi : i ∈ c.points) :
      Step c { c with points := i :: c.points }
  /-- A draft of vectors that exist is completed. -/
  | build {c : Chronicle α} (dims : Dimensions) {draft : IterateDraft α} {iterate : Iterate α}
      {old : Component → Nat} {supply : Supply}
      (hgiven : ∀ part v, draft.given? part = some v → ⟨v, old part⟩ ∈ c.vectors)
      (hrun : (draft.build dims).run c.supply = (.ok iterate, supply)) :
      Step c (c.addPoint iterate (fun part => (draft.given? part).isNone) old supply)
  | buildRefused {c : Chronicle α} (dims : Dimensions) (draft : IterateDraft α) {error : Error α}
      {supply : Supply} (hrun : (draft.build dims).run c.supply = (.error error, supply)) :
      Step c { c with supply }
  /-- A point is reached from another one. -/
  | move {c : Chronicle α} {base : BornPoint α} {direction iterate : Iterate α} {supply : Supply}
      (primal dual : α) (hbase : base ∈ c.points)
      (hrun : (base.iterate.takeStep primal dual direction).run c.supply = (.ok iterate, supply)) :
      Step c (c.addPoint iterate (Component.moves primal dual) base.parts supply)
  | moveRefused {c : Chronicle α} (base direction : Iterate α) (primal dual : α) {error : Error α}
      {supply : Supply}
      (hrun : (base.takeStep primal dual direction).run c.supply = (.error error, supply)) :
      Step c { c with supply }
  /-- A state is set up at a point. -/
  | start {c : Chronicle α} (dims : Dimensions) {i : BornPoint α} (mu : α) {state : State α}
      (hi : i ∈ c.points) (hstart : State.start dims i.iterate mu = .ok state) :
      Step c { c with states := state :: c.states }
  /-- A state is changed without creating anything. -/
  | change {c : Chronicle α} {state state' : State α} (hstate : state ∈ c.states)
      (change : State.Change α) (hknown : change.Known c.pool)
      (hcreates : ∀ primal dual, change ≠ .trialFromStep primal dual) {supply : Supply}
      (hrun : (state.change change).run c.supply = (.ok state', supply)) :
      Step c { c with supply, states := state' :: c.states }
  /-- A trial point is reached along the search direction. -/
  | trialFromStep {c : Chronicle α} {state state' : State α} (hstate : state ∈ c.states)
      (primal dual : α) {supply : Supply}
      (hrun : (state.change (.trialFromStep primal dual)).run c.supply = (.ok state', supply))
      {base : BornPoint α} (hbase : base ∈ c.points) (hcurrent : base.iterate = state.current)
      {trial : Iterate α} (htrial : state'.trial = some trial) :
      Step c { c.addPoint trial (Component.moves primal dual) base.parts supply with
        states := state' :: c.states }
  | changeRefused {c : Chronicle α} (state : State α) (change : State.Change α) {error : Error α}
      {supply : Supply} (hrun : (state.change change).run c.supply = (.error error, supply)) :
      Step c { c with supply }

/-- The chronicles of everything that can come about. -/
inductive Reachable : Chronicle α → Prop where
  | empty : Reachable {}
  | step {c c' : Chronicle α} (h : Reachable c) (hstep : Step c c') : Reachable c'

/-! ### What a chronicle says about identities -/

/-- The identities were drawn in the order of the list, everything has
the one at its place, and there is nothing else that a point or a state
could refer to. -/
structure Faithful (c : Chronicle α) : Prop where
  coherent : c.pool.Coherent
  drawn : Drawn {} c.created c.supply
  vector : ∀ v ∈ c.vectors, c.created[v.birth]? = some v.value.tag
  point : ∀ i ∈ c.points, c.created[i.birth]? = some i.iterate.tag
  part : ∀ i ∈ c.points, ∀ part, ⟨i.iterate.component part, i.parts part⟩ ∈ c.vectors
  state : ∀ state ∈ c.states, state.Known c.pool

section
omit [Scalar α]

/-- A vector of the chronicle is in its pool. -/
theorem mem_pool_vectors {c : Chronicle α} {v : Born (TaggedVector α)} (hv : v ∈ c.vectors) :
    v.value ∈ c.pool.vectors :=
  List.mem_map_of_mem hv

/-- So is a point. -/
theorem mem_pool_points {c : Chronicle α} {i : BornPoint α} (hi : i ∈ c.points) :
    i.iterate ∈ c.pool.points :=
  List.mem_map_of_mem hi

/-- What is created later does not move what was created before. -/
theorem getElem?_created {c : Chronicle α} {birth : Nat} {tag : Tag} (tags : List Tag)
    (h : c.created[birth]? = some tag) : (c.created ++ tags)[birth]? = some tag := by
  obtain ⟨hbirth, -⟩ := List.getElem?_eq_some_iff.1 h
  rw [List.getElem?_append_left hbirth, h]

/-- States are not affected by what comes into being. -/
theorem Faithful.known_of_sub {c : Chronicle α} (h : c.Faithful) {pool : Pool α}
    (hsub : c.pool.Sub pool) : ∀ state ∈ c.states, state.Known pool :=
  fun state hstate => (h.state state hstate).mono hsub

/-- Identities that are drawn and not used do no harm. -/
theorem Faithful.draw {c : Chronicle α} (h : c.Faithful) {supply : Supply}
    (hlater : c.supply.next ≤ supply.next) : ({ c with supply } : Chronicle α).Faithful where
  coherent := h.coherent.draw hlater
  drawn := h.drawn.later hlater
  vector := h.vector
  point := h.point
  part := h.part
  state := h.known_of_sub (c.pool.draw_sub supply)

/-- A new vector has the identity at the end of the list. -/
theorem Faithful.addVector {c : Chronicle α} (h : c.Faithful) {entries : List α}
    {v : TaggedVector α} {supply : Supply}
    (hrun : TaggedVector.ofList entries c.supply = (v, supply)) :
    (c.addVector v supply).Faithful where
  coherent := h.coherent.addVector (Pool.draws_ofList hrun)
  drawn := h.drawn.append (drawn_ofList hrun)
  vector w hw := by
    rcases List.mem_cons.1 hw with rfl | hold
    · exact List.getElem?_concat_length
    · -- Earlier births keep their place.
      exact getElem?_created [v.tag] (h.vector w hold)
  point i hi := getElem?_created [v.tag] (h.point i hi)
  part i hi part := List.mem_cons_of_mem _ (h.part i hi part)
  state := h.known_of_sub (c.pool.addVector_sub v supply)

/-- A copied vector has the place of the one it was copied from. -/
theorem Faithful.copyVector {c : Chronicle α} (h : c.Faithful) {v : Born (TaggedVector α)}
    (hv : v ∈ c.vectors) : ({ c with vectors := v :: c.vectors } : Chronicle α).Faithful where
  coherent := h.coherent.addVector ⟨Nat.le_refl _, Or.inl (mem_pool_vectors hv)⟩
  drawn := h.drawn
  vector w hw := by
    rcases List.mem_cons.1 hw with rfl | hold
    · exact h.vector w hv
    · exact h.vector w hold
  point := h.point
  part i hi part := List.mem_cons_of_mem _ (h.part i hi part)
  state := h.known_of_sub (c.pool.addVector_sub v.value c.supply)

/-- So has a copied point. -/
theorem Faithful.copyPoint {c : Chronicle α} (h : c.Faithful) {i : BornPoint α}
    (hi : i ∈ c.points) : ({ c with points := i :: c.points } : Chronicle α).Faithful := by
  -- The copy is one of the points that were there before.
  have hmem : ∀ j ∈ i :: c.points, j ∈ c.points := List.forall_mem_cons.2 ⟨hi, fun _ hj => hj⟩
  have hpool : ∀ j ∈ i.iterate :: c.pool.points, j ∈ c.pool.points :=
    List.forall_mem_cons.2 ⟨mem_pool_points hi, fun _ hj => hj⟩
  constructor
  case coherent =>
    exact {
      vector_old := h.coherent.vector_old
      vector_eq := h.coherent.vector_eq
      point_old := fun j hj => h.coherent.point_old j (hpool j hj)
      point_eq := fun j hj k hk => h.coherent.point_eq j (hpool j hj) k (hpool k hk)
      component_mem := fun j hj => h.coherent.component_mem j (hpool j hj) }
  case drawn => exact h.drawn
  case vector => exact h.vector
  case point => exact fun j hj => h.point j (hmem j hj)
  case part => exact fun j hj => h.part j (hmem j hj)
  case state => exact h.known_of_sub ⟨fun _ hv => hv, fun _ hj => List.mem_cons_of_mem _ hj⟩

/-- A new point enters the pool with its components. -/
theorem pool_addPoint (c : Chronicle α) (iterate : Iterate α) (fresh : Component → Bool)
    (old : Component → Nat) (supply : Supply) :
    (c.addPoint iterate fresh old supply).pool = c.pool.addPoint iterate supply := by
  simp [pool, addPoint, Pool.addPoint, Iterate.components]

/-- The fresh components of a new point are listed at their places. -/
theorem getElem?_places (c : Chronicle α) (iterate : Iterate α) {fresh : Component → Bool}
    {part : Component} (hfresh : fresh part = true) (old : Component → Nat) :
    (c.created ++ iterate.tag :: iterate.tags fresh)[c.places fresh old part]?
      = some (iterate.component part).tag := by
  have hmem : part ∈ Component.all.filter fresh :=
    List.mem_filter.2 ⟨part.mem_all, hfresh⟩
  rw [places, if_pos hfresh, List.getElem?_append_right (by omega)]
  -- Behind the identity of the point.
  rw [show ∀ n, c.created.length + 1 + n - c.created.length = n + 1 by omega,
    List.getElem?_cons_succ, Iterate.tags, List.getElem?_map, List.getElem?_idxOf hmem]
  rfl

/-- A new point has its identity drawn first, then those of its fresh
components. The others were there before, at the places they are given. -/
theorem Faithful.addPoint {c : Chronicle α} (h : c.Faithful) {iterate : Iterate α}
    {fresh : Component → Bool} {old : Component → Nat} {supply : Supply}
    (hdrawn : Drawn c.supply (iterate.tag :: iterate.tags fresh) supply)
    (hkept : ∀ part, fresh part = false → ⟨iterate.component part, old part⟩ ∈ c.vectors)
    (hcoherent : (c.pool.addPoint iterate supply).Coherent) :
    (c.addPoint iterate fresh old supply).Faithful where
  coherent := by
    rw [pool_addPoint]
    exact hcoherent
  drawn := h.drawn.append hdrawn
  vector v hv := by
    rcases List.mem_append.1 hv with hpart | hold
    · obtain ⟨part, -, rfl⟩ := List.mem_map.1 hpart
      by_cases hfresh : fresh part = true
      · exact getElem?_places c iterate hfresh old
      · -- A component that was kept is where it was.
        have hkept := hkept part (Bool.eq_false_iff.2 hfresh)
        show _[c.places fresh old part]? = _
        rw [places, if_neg hfresh]
        exact getElem?_created _ (h.vector _ hkept)
    · exact getElem?_created _ (h.vector v hold)
  point i hi := by
    rcases List.mem_cons.1 hi with rfl | hold
    · show (c.created ++ _)[c.created.length]? = _
      rw [List.getElem?_append_right (Nat.le_refl _), Nat.sub_self, List.getElem?_cons_zero]
    · exact getElem?_created _ (h.point i hold)
  part i hi part := by
    rcases List.mem_cons.1 hi with rfl | hold
    · exact List.mem_append_left _ (List.mem_map_of_mem part.mem_all)
    · exact List.mem_append_right _ (h.part i hold part)
  state := by
    rw [pool_addPoint]
    exact h.known_of_sub (c.pool.addPoint_sub iterate supply)

/-- A state may be added if it refers to points that exist. -/
theorem Faithful.addState {c : Chronicle α} (h : c.Faithful) {state : State α}
    (hstate : state.Known c.pool) :
    ({ c with states := state :: c.states } : Chronicle α).Faithful where
  coherent := h.coherent
  drawn := h.drawn
  vector := h.vector
  point := h.point
  part := h.part
  state := List.forall_mem_cons.2 ⟨hstate, h.state⟩

end

/-- Completing a draft of existing vectors keeps the chronicle faithful.
-/
theorem Faithful.build {c : Chronicle α} (h : c.Faithful) {dims : Dimensions}
    {draft : IterateDraft α} {iterate : Iterate α} {old : Component → Nat} {supply : Supply}
    (hgiven : ∀ part v, draft.given? part = some v → ⟨v, old part⟩ ∈ c.vectors)
    (hrun : (draft.build dims).run c.supply = (.ok iterate, supply)) :
    (c.addPoint iterate (fun part => (draft.given? part).isNone) old supply).Faithful := by
  obtain ⟨hdrawn, hsame⟩ := drawn_build hrun
  -- What was given was there, and what was not given is fresh.
  refine h.addPoint hdrawn (fun part hkept => ?_) (h.coherent.build (fun v hv => ?_) hrun)
  · obtain ⟨v, hv⟩ := Option.isSome_iff_exists.1 (Option.isNone_eq_false_iff.1 hkept)
    rw [hsame part v hv]
    exact hgiven part v hv
  · obtain ⟨part, hpart⟩ := draft.exists_given? hv
    exact mem_pool_vectors (hgiven part v hpart)

/-- So does reaching a point from an existing one. -/
theorem Faithful.move {c : Chronicle α} (h : c.Faithful) {base : BornPoint α}
    {direction iterate : Iterate α} {primal dual : α} {supply : Supply} (hbase : base ∈ c.points)
    (hrun : (base.iterate.takeStep primal dual direction).run c.supply = (.ok iterate, supply)) :
    (c.addPoint iterate (Component.moves primal dual) base.parts supply).Faithful := by
  obtain ⟨hdrawn, hsame⟩ := drawn_takeStep hrun
  refine h.addPoint hdrawn (fun part hkept => ?_) (h.coherent.move (mem_pool_points hbase) hrun)
  rw [hsame part hkept]
  exact h.part base hbase part

/-- Only a step along the search direction creates anything. The other
changes rearrange what is there. -/
theorem known_of_changed {pool : Pool α} {state state' : State α} {change : State.Change α}
    {supply supply' : Supply} (h : State.Changed state supply change state' supply')
    (hstate : state.Known pool) (hknown : change.Known pool)
    (hcreates : ∀ primal dual, change ≠ .trialFromStep primal dual) :
    supply' = supply ∧ state'.Known pool := by
  -- A point of the new state is one of the old state or was given with the change.
  cases h with
  | mu => exact ⟨rfl, hstate.current, hstate.trial, hstate.direction⟩
  | trial =>
      refine ⟨rfl, hstate.current, ?_, hstate.direction⟩
      rintro i ⟨⟩
      exact hknown
  | direction =>
      refine ⟨rfl, hstate.current, hstate.trial, ?_⟩
      rintro i ⟨⟩
      exact hknown
  | trialFromStep => exact absurd rfl (hcreates _ _)
  | acceptTrial htrial => exact ⟨rfl, hstate.trial _ htrial, by simp, by simp⟩

/-- Each step keeps the chronicle faithful. -/
theorem Step.faithful {c c' : Chronicle α} (hstep : Step c c') (h : c.Faithful) :
    c'.Faithful := by
  -- One case for each way to create, copy or move something.
  cases hstep with
  | draw supply hlater => exact h.draw hlater
  | make making hrun =>
      obtain ⟨entries, hmaking⟩ := making.exists_ofList
      rw [hmaking] at hrun
      exact h.addVector hrun
  | copyVector hv => exact h.copyVector hv
  | copyPoint hi => exact h.copyPoint hi
  | build dims hgiven hrun => exact h.build hgiven hrun
  | buildRefused dims draft hrun =>
      have hlater := forward_build dims draft c.supply
      rw [hrun] at hlater
      exact h.draw hlater
  | move primal dual hbase hrun => exact h.move hbase hrun
  | moveRefused base direction primal dual hrun =>
      have hlater := Iterate.forward_takeStep base primal dual direction c.supply
      rw [hrun] at hlater
      exact h.draw hlater
  | start dims mu hi hstart =>
      simp only [State.start, Checked.bind_eq_ok, Checked.pure_eq_ok] at hstart
      obtain ⟨_, -, _, -, rfl⟩ := hstart
      exact h.addState ⟨mem_pool_points hi, by simp, by simp⟩
  | change hstate change hknown hcreates hrun =>
      obtain ⟨rfl, hstate'⟩ :=
        known_of_changed (State.changed_of_run hrun) (h.state _ hstate) hknown hcreates
      exact h.addState hstate'
  | @trialFromStep _ _ hstate primal dual supply hrun _ hbase hcurrent trial htrial =>
      -- The trial point is new, so the state that holds it comes after it.
      cases State.changed_of_run hrun with
      | trialFromStep hdirection htakeStep =>
          cases htrial
          rw [← hcurrent] at htakeStep
          refine (h.move hbase htakeStep).addState ?_
          rw [pool_addPoint]
          have hknown := (h.state _ hstate).mono (c.pool.addPoint_sub trial supply)
          refine ⟨hknown.current, ?_, hknown.direction⟩
          rintro i ⟨⟩
          exact List.mem_cons_self
  | changeRefused state change hrun =>
      have hlater := State.forward_change state change c.supply
      rw [hrun] at hlater
      exact h.draw hlater

/-- Whatever was created, copied and moved, its chronicle is faithful. -/
theorem Reachable.faithful {c : Chronicle α} (h : c.Reachable) : c.Faithful := by
  induction h with
  | empty => exact ⟨by constructor <;> simp [pool], .nil _, by simp, by simp, by simp, by simp⟩
  | step _ hstep ih => exact hstep.faithful ih

/-- Every operation on a state is a step, whether it succeeds or not. -/
theorem Reachable.exists_step {c : Chronicle α} (h : c.Reachable) {state : State α}
    (hstate : state ∈ c.states) (change : State.Change α) (hknown : change.Known c.pool) :
    ∃ c', c.Step c' ∧ c'.supply = ((state.change change).run c.supply).2
      ∧ ∀ state', ((state.change change).run c.supply).1 = .ok state' → state' ∈ c'.states := by
  rcases hrun : (state.change change).run c.supply with ⟨error | state', supply⟩
  · exact ⟨_, .changeRefused state change hrun, rfl, fun _ hok => nomatch hok⟩
  · by_cases hcreates : ∃ primal dual, change = .trialFromStep primal dual
    · obtain ⟨primal, dual, rfl⟩ := hcreates
      -- The current point is known, so it has a place to start from.
      obtain ⟨base, hbase, hcurrent⟩ := List.mem_map.1 (h.faithful.state state hstate).current
      cases State.changed_of_run hrun with
      | trialFromStep hdirection htakeStep =>
          refine ⟨_, .trialFromStep hstate primal dual hrun hbase hcurrent rfl, rfl, ?_⟩
          rintro _ ⟨⟩
          exact List.mem_cons_self
    · have hother : ∀ primal dual, change ≠ .trialFromStep primal dual :=
        fun primal dual hsame => hcreates ⟨primal, dual, hsame⟩
      refine ⟨_, .change hstate change hknown hother hrun, rfl, ?_⟩
      rintro _ ⟨⟩
      exact List.mem_cons_self

/-- The identity `tag` was created at this place, with a vector or with a
point. -/
def Created (c : Chronicle α) (birth : Nat) (tag : Tag) : Prop :=
  (∃ v ∈ c.vectors, v.birth = birth ∧ v.value.tag = tag)
    ∨ ∃ i ∈ c.points, i.birth = birth ∧ i.iterate.tag = tag

section
omit [Scalar α]

/-- What was created at a place has the identity that the list has there.
-/
theorem Faithful.created {c : Chronicle α} (h : c.Faithful) {birth : Nat} {tag : Tag}
    (hcreated : c.Created birth tag) : c.created[birth]? = some tag := by
  rcases hcreated with ⟨v, hv, rfl, rfl⟩ | ⟨i, hi, rfl, rfl⟩
  · exact h.vector v hv
  · exact h.point i hi

/-- What was created later has the greater identity. -/
theorem Faithful.before {c : Chronicle α} (h : c.Faithful) {birth birth' : Nat} {tag tag' : Tag}
    (hcreated : c.Created birth tag) (hcreated' : c.Created birth' tag')
    (hlater : birth < birth') : tag.Before tag' := by
  obtain ⟨hlt, rfl⟩ := List.getElem?_eq_some_iff.1 (h.created hcreated)
  obtain ⟨hlt', rfl⟩ := List.getElem?_eq_some_iff.1 (h.created hcreated')
  exact List.pairwise_iff_getElem.1 h.drawn.ordered birth birth' hlt hlt' hlater

/-- So what was created at different places has different identities. -/
theorem Faithful.tag_ne {c : Chronicle α} (h : c.Faithful) {birth birth' : Nat} {tag tag' : Tag}
    (hcreated : c.Created birth tag) (hcreated' : c.Created birth' tag')
    (hne : birth ≠ birth') : tag ≠ tag' := by
  rintro rfl
  rcases Nat.lt_or_gt_of_ne hne with hlt | hgt
  · exact Nat.lt_irrefl _ (h.before hcreated hcreated' hlt)
  · exact Nat.lt_irrefl _ (h.before hcreated' hcreated hgt)

end

/-- Identity determines content. Vectors with the same identity share
their storage, points with the same identity have the same components,
and what was created at different places has different identities, the
later one the greater. The next identity exceeds all of them. This is
about every vector there is: components of points are among the vectors,
with the place at which they were created, and the points of states are
among the points. -/
theorem Reachable.identity_determines_content {c : Chronicle α} (h : c.Reachable) :
    (∀ v ∈ c.vectors, ∀ w ∈ c.vectors, v.value.tag = w.value.tag →
        v.value.storage = w.value.storage ∧ v.value.entries = w.value.entries)
    ∧ (∀ i ∈ c.points, ∀ j ∈ c.points, i.iterate.tag = j.iterate.tag →
        ∀ part, (i.iterate.component part).tag = (j.iterate.component part).tag)
    ∧ (∀ v ∈ c.vectors, ∀ w ∈ c.vectors, v.birth ≠ w.birth → v.value.tag ≠ w.value.tag)
    ∧ (∀ birth birth' tag tag', c.Created birth tag → c.Created birth' tag' → birth < birth' →
        tag.Before tag')
    ∧ (∀ tag ∈ c.created, tag.Before (Tag.fresh c.supply).1)
    ∧ (∀ i ∈ c.points, ∀ part, ⟨i.iterate.component part, i.parts part⟩ ∈ c.vectors)
    ∧ ∀ state ∈ c.states, ∀ iterate, (iterate = state.current ∨ state.trial = some iterate
        ∨ state.direction = some iterate) → ∃ i ∈ c.points, i.iterate = iterate := by
  have hc := h.faithful
  refine ⟨fun v hv w hw htag => ?_, fun i hi j hj htag part => ?_, fun v hv w hw hbirth => ?_,
    fun _ _ _ _ hcreated hcreated' hlater => hc.before hcreated hcreated' hlater,
    fun tag htag => (hc.drawn.bounds tag htag).2, hc.part, fun state hstate iterate hpoint => ?_⟩
  · have heq := hc.coherent.vector_eq _ (mem_pool_vectors hv) _ (mem_pool_vectors hw) htag
    rw [heq]
    exact ⟨rfl, rfl⟩
  · rw [hc.coherent.point_eq _ (mem_pool_points hi) _ (mem_pool_points hj) htag]
  · exact hc.tag_ne (Or.inl ⟨v, hv, rfl, rfl⟩) (Or.inl ⟨w, hw, rfl, rfl⟩) hbirth
  · -- The point of a state is in the pool, so it is one of the chronicle.
    have hknown := hc.state state hstate
    have hmem : iterate ∈ c.pool.points := by
      rcases hpoint with rfl | htrial | hdirection
      · exact hknown.current
      · exact hknown.trial iterate htrial
      · exact hknown.direction iterate hdirection
    exact List.mem_map.1 hmem

end Chronicle

/-! ### Zeros that are not the same

Two vectors have the same entry, and a point is moved along itself by a
step that leaves the primal variables alone. Its multipliers are zeros
again, in vectors of their own. -/

namespace HalfLine

/-- Two equal vectors and a copy of the first of them. -/
def vectorsMade : Chronicle Binary64 :=
  let made := ((Chronicle.addVector {} (vector 1 []) ⟨3⟩).addVector (vector 3 [0]) ⟨5⟩).addVector
    (vector 5 [0]) ⟨7⟩
  { made with vectors := ⟨vector 3 [0], 1⟩ :: made.vectors }

/-- A point at the copy. -/
def draft : IterateDraft Binary64 :=
  .ofPrimal (vector 3 [0]) (vector 1 [])

/-- The places of the components that the draft was given. -/
def givenPlaces : Component → Nat
  | .x => 1
  | _ => 0

/-- The chronicle with a point at the copy. -/
def pointMade : Chronicle Binary64 :=
  vectorsMade.addPoint current (fun part => (draft.given? part).isNone) givenPlaces ⟨20⟩

/-- The point with itself as the search direction. -/
def directed : Chronicle Binary64 :=
  let initial := { state with trial := none }
  { pointMade with states := [{ initial with direction := some current }, initial] }

/-- The point that is reached with zero as the primal step length. -/
def reached : Iterate Binary64 :=
  point 20 (vector 3 [0]) (vector 1 [])

/-- The chronicle with the point that is reached from there. -/
def chronicle : Chronicle Binary64 :=
  let kept := vectorsMade.places (fun part => (draft.given? part).isNone) givenPlaces
  let stepped := directed.addPoint reached (Component.moves (0 : Binary64) 1) kept ⟨33⟩
  { stepped with
    states := { state with trial := some reached, direction := some current } :: directed.states }

/-- The point was made from the copy, in steps. -/
theorem pointMade_reachable : pointMade.Reachable := by
  have hmade := ((Chronicle.Reachable.empty (α := Binary64)).step (.make (.ofList []) rfl)).step
    (.make (.ofList [0]) rfl)
  have hequal := hmade.step (.make (.replicate 1 0) rfl)
  have hcopied := hequal.step (.copyVector (v := ⟨vector 3 [0], 1⟩) (by decide +kernel))
  refine hcopied.step (.build problem.dimensions (fun part v hv => ?_) rfl)
  rcases part with _ | _ | _ | _ | ⟨_ | _, _ | _⟩ <;> cases hv <;> decide +kernel

/-- And the state was set up, given a direction and moved. -/
theorem chronicle_reachable : chronicle.Reachable := by
  have hstarted : Chronicle.Reachable { pointMade with states := [{ state with trial := none }] } :=
    pointMade_reachable.step (.start problem.dimensions 1 List.mem_cons_self rfl)
  have hdirected : directed.Reachable :=
    hstarted.step (.change List.mem_cons_self (.direction current) List.mem_cons_self (by simp) rfl)
  exact hdirected.step (Chronicle.Step.trialFromStep (c := directed) List.mem_cons_self
    (0 : Binary64) 1 rfl List.mem_cons_self rfl rfl)

/-- The two vectors with the same entry have different identities, and so
have the multipliers before and after the step, which are equal as well.
The primal variables are shared by both points. -/
theorem identity_determines_content_halfLine :
    chronicle.Reachable
    ∧ (vector 3 [0]).entries = (vector 5 [0]).entries ∧ (vector 3 [0]).tag ≠ (vector 5 [0]).tag
    ∧ reached.multipliers.xLower.entries = current.multipliers.xLower.entries
    ∧ reached.multipliers.xLower.tag ≠ current.multipliers.xLower.tag
    ∧ reached.x.storage = current.x.storage
    ∧ current.tag.Before reached.tag := by
  obtain ⟨hstorage, -, hne, hbefore, -, hpart, -⟩ :=
    Chronicle.Reachable.identity_determines_content chronicle_reachable
  have hreached := hpart ⟨reached, 10, _⟩ List.mem_cons_self
  have hcurrent := hpart ⟨current, 3, _⟩ (List.mem_cons_of_mem _ List.mem_cons_self)
  refine ⟨chronicle_reachable, rfl, ?_, rfl, ?_, ?_, ?_⟩
  · exact hne ⟨vector 3 [0], 1⟩ (by decide +kernel) ⟨vector 5 [0], 2⟩ (by decide +kernel)
      (by decide)
  · exact hne _ (hreached (.multiplier .xLower)) _ (hcurrent (.multiplier .xLower))
      (by decide +kernel)
  · exact (hstorage _ (hreached .x) _ (hcurrent .x) rfl).1
  · refine hbefore 3 10 _ _ (Or.inr ⟨_, List.mem_cons_of_mem _ List.mem_cons_self, rfl, rfl⟩)
      (Or.inr ⟨_, List.mem_cons_self, rfl, rfl⟩) (by decide)

end HalfLine

end InteriorPoint
