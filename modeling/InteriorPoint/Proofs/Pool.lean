import InteriorPoint.Proofs.State

/-!
# `InteriorPoint.Proofs.Pool`: the vectors and points created so far

A key names its inputs by identity. It determines them because no two
vectors of one program share an identity, and no two points do. That is
a fact about where vectors and points come from, not about the engine,
and `Pool` records it: the supply of identities with all the vectors and
points that were made from it.

`Pool.Step` lists how a vector or a point comes into being: from
entries, from a draft whose given vectors exist, or by moving one point
along another. Drawing identities for other purposes is a step as well.
`Pool.Reachable` is what can be created from nothing.

`Pool.Coherent` is the invariant: everything in the pool has an identity
below the next one, equal identities mean equal vectors and equal
points, and the components of a point are vectors of the pool. A step of
a point draws several identities in a row, so the proof goes through
pools that have the vectors of the point but not yet the point itself
(`Pool.Grows`).
-/

set_option autoImplicit false

namespace InteriorPoint

variable {α : Type}

/-- The components of a point, in the order in which they are checked. -/
def Iterate.components (iterate : Iterate α) : List (TaggedVector α) :=
  Component.all.map iterate.component

/-- The vectors that a draft was given. -/
def IterateDraft.given (draft : IterateDraft α) : List (TaggedVector α) :=
  draft.x :: draft.s :: (draft.yC.toList ++ draft.yD.toList
    ++ Family.all.flatMap fun family => (draft.multipliers.get family).toList)

/-- The source of identities and what was made with it. -/
structure Pool (α : Type) where
  supply : Supply := {}
  vectors : List (TaggedVector α) := []
  points : List (Iterate α) := []

namespace Pool

open Drawing

/-- The pool with a further vector. -/
def addVector (pool : Pool α) (v : TaggedVector α) (supply : Supply) : Pool α :=
  { pool with supply, vectors := v :: pool.vectors }

/-- The vectors are those before and the new one. -/
@[simp]
theorem mem_addVector {pool : Pool α} {v w : TaggedVector α} {supply : Supply} :
    w ∈ (pool.addVector v supply).vectors ↔ w = v ∨ w ∈ pool.vectors :=
  List.mem_cons

/-- The pool with a further point and its components. -/
def addPoint (pool : Pool α) (iterate : Iterate α) (supply : Supply) : Pool α where
  supply := supply
  vectors := iterate.components ++ pool.vectors
  points := iterate :: pool.points

/-- Something is created, or identities are drawn for other purposes. -/
inductive Step [Scalar α] : Pool α → Pool α → Prop where
  /-- Identities are drawn. -/
  | draw {pool : Pool α} (supply : Supply) (hlater : pool.supply.next ≤ supply.next) :
      Step pool { pool with supply }
  /-- A vector is made from its entries. -/
  | vector {pool : Pool α} (entries : List α) {v : TaggedVector α} {supply : Supply}
      (hrun : TaggedVector.ofList entries pool.supply = (v, supply)) :
      Step pool (pool.addVector v supply)
  /-- A point is completed from a draft of vectors that exist. -/
  | build {pool : Pool α} (dims : Dimensions) {draft : IterateDraft α} {iterate : Iterate α}
      {supply : Supply} (hgiven : ∀ v ∈ draft.given, v ∈ pool.vectors)
      (hrun : (draft.build dims).run pool.supply = (.ok iterate, supply)) :
      Step pool (pool.addPoint iterate supply)
  /-- A point is reached from one point along another. -/
  | move {pool : Pool α} {base direction iterate : Iterate α} {supply : Supply} (primal dual : α)
      (hbase : base ∈ pool.points)
      (hrun : (base.takeStep primal dual direction).run pool.supply = (.ok iterate, supply)) :
      Step pool (pool.addPoint iterate supply)

/-- The pools that can be created from nothing. -/
inductive Reachable [Scalar α] : Pool α → Prop where
  | empty : Reachable {}
  | step {pool pool' : Pool α} (h : Reachable pool) (hstep : Step pool pool') : Reachable pool'

/-- Identities are old, equal identities mean equal things, and the
components of a point are known. -/
structure Coherent (pool : Pool α) : Prop where
  vector_old : ∀ v ∈ pool.vectors, v.tag.number < pool.supply.next
  vector_eq : ∀ v ∈ pool.vectors, ∀ w ∈ pool.vectors, v.tag = w.tag → v = w
  point_old : ∀ i ∈ pool.points, i.tag.number < pool.supply.next
  point_eq : ∀ i ∈ pool.points, ∀ j ∈ pool.points, i.tag = j.tag → i = j
  component_mem : ∀ i ∈ pool.points, ∀ part, i.component part ∈ pool.vectors

/-! ### Single draws -/

/-- `v` is known already, or its identity was drawn between the supply
of the pool and the given one. -/
def Draws (pool : Pool α) (v : TaggedVector α) (supply : Supply) : Prop :=
  pool.supply.next ≤ supply.next
    ∧ (v ∈ pool.vectors ∨ pool.supply.next ≤ v.tag.number ∧ v.tag.number < supply.next)

/-- A new vector takes two numbers, its identity and its address. -/
theorem ofList_eq (entries : List α) (supply : Supply) :
    TaggedVector.ofList entries supply
      = (⟨⟨supply.next⟩, ⟨supply.next + 1, entries⟩⟩, ⟨supply.next + 2⟩) :=
  rfl

/-- A vector that is made has a new identity. -/
theorem draws_ofList {pool : Pool α} {entries : List α} {v : TaggedVector α} {supply : Supply}
    (hrun : TaggedVector.ofList entries pool.supply = (v, supply)) : pool.Draws v supply := by
  rw [ofList_eq] at hrun
  cases hrun
  exact ⟨Nat.le_add_right _ 2, Or.inr ⟨Nat.le_refl _, Nat.lt_add_of_pos_right (by decide)⟩⟩

/-! ### Coherence is kept -/

/-- Identities that are drawn and not used do no harm. -/
theorem Coherent.draw {pool : Pool α} (hpool : pool.Coherent) {supply : Supply}
    (hlater : pool.supply.next ≤ supply.next) : ({ pool with supply } : Pool α).Coherent where
  vector_old v hv := Nat.lt_of_lt_of_le (hpool.vector_old v hv) hlater
  vector_eq := hpool.vector_eq
  point_old i hi := Nat.lt_of_lt_of_le (hpool.point_old i hi) hlater
  point_eq := hpool.point_eq
  component_mem := hpool.component_mem

/-- A vector that was drawn is a known one if it has the identity of
one. -/
theorem Draws.eq_of_tag_eq {pool : Pool α} (hpool : pool.Coherent) {v w : TaggedVector α}
    {supply : Supply} (hv : pool.Draws v supply) (hw : w ∈ pool.vectors) (htag : v.tag = w.tag) :
    v = w := by
  rcases hv.2 with hknown | ⟨hnew, -⟩
  · exact hpool.vector_eq v hknown w hw htag
  · -- A new identity exceeds every known one.
    have hold := hpool.vector_old w hw
    rw [← htag] at hold
    omega

/-- A vector that was drawn may be added. -/
theorem Coherent.addVector {pool : Pool α} (hpool : pool.Coherent) {v : TaggedVector α}
    {supply : Supply} (hv : pool.Draws v supply) : (pool.addVector v supply).Coherent where
  vector_old w hw := by
    rcases List.mem_cons.1 hw with rfl | hw
    · rcases hv.2 with hknown | ⟨-, hlt⟩
      · exact Nat.lt_of_lt_of_le (hpool.vector_old w hknown) hv.1
      · exact hlt
    · exact Nat.lt_of_lt_of_le (hpool.vector_old w hw) hv.1
  vector_eq w hw u hu htag := by
    -- New against new, new against old, and old against old.
    rcases List.mem_cons.1 hw with rfl | hwold <;> rcases List.mem_cons.1 hu with rfl | huold
    · rfl
    · exact hv.eq_of_tag_eq hpool huold htag
    · exact (hv.eq_of_tag_eq hpool hwold htag.symm).symm
    · exact hpool.vector_eq w hwold u huold htag
  point_old i hi := Nat.lt_of_lt_of_le (hpool.point_old i hi) hv.1
  point_eq := hpool.point_eq
  component_mem i hi part := List.mem_cons_of_mem _ (hpool.component_mem i hi part)

/-- `larger` is coherent and has the vectors of `pool`, the same points
and a later supply. -/
structure Grows (pool larger : Pool α) : Prop where
  coherent : larger.Coherent
  points : larger.points = pool.points
  vectors : ∀ v ∈ pool.vectors, v ∈ larger.vectors
  supply : pool.supply.next ≤ larger.supply.next

/-- Nothing was added yet. -/
theorem Coherent.grows {pool : Pool α} (hpool : pool.Coherent) : pool.Grows pool :=
  ⟨hpool, rfl, fun _ hv => hv, Nat.le_refl _⟩

/-- Identities may be drawn on the way. -/
theorem Grows.draw {pool larger : Pool α} (h : pool.Grows larger) {supply : Supply}
    (hlater : larger.supply.next ≤ supply.next) :
    pool.Grows { larger with supply } :=
  ⟨h.coherent.draw hlater, h.points, h.vectors, Nat.le_trans h.supply hlater⟩

/-- So may a vector. -/
theorem Grows.addVector {pool larger : Pool α} (h : pool.Grows larger) {v : TaggedVector α}
    {supply : Supply} (hv : larger.Draws v supply) : pool.Grows (larger.addVector v supply) :=
  ⟨h.coherent.addVector hv, h.points, fun w hw => List.mem_cons_of_mem _ (h.vectors w hw),
    Nat.le_trans h.supply hv.1⟩

/-- What grows from a larger pool has grown from the smaller one. -/
theorem Grows.trans {pool larger largest : Pool α} (h : pool.Grows larger)
    (h' : larger.Grows largest) : pool.Grows largest :=
  ⟨h'.coherent, h'.points.trans h.points, fun v hv => h'.vectors v (h.vectors v hv),
    Nat.le_trans h.supply h'.supply⟩

/-- A new point brings its components. -/
theorem mem_addPoint {pool : Pool α} {iterate : Iterate α} {supply : Supply} {v : TaggedVector α} :
    v ∈ (pool.addPoint iterate supply).vectors
      ↔ (∃ part, iterate.component part = v) ∨ v ∈ pool.vectors := by
  simp [addPoint, Iterate.components, Component.mem_all]

/-- A point whose components were added to the pool, and whose identity
is its own, may be added. -/
theorem Coherent.addPoint {pool larger : Pool α} (hpool : pool.Coherent) (h : pool.Grows larger)
    {iterate : Iterate α} (hcomponent : ∀ part, iterate.component part ∈ larger.vectors)
    (hnew : iterate ∈ pool.points ∨ pool.supply.next ≤ iterate.tag.number)
    (hold : iterate.tag.number < larger.supply.next) :
    (pool.addPoint iterate larger.supply).Coherent := by
  -- The vectors of the new pool are among those of `larger`, which is coherent.
  have hsub : ∀ v ∈ (pool.addPoint iterate larger.supply).vectors, v ∈ larger.vectors := by
    intro v hv
    rcases mem_addPoint.1 hv with ⟨part, rfl⟩ | hv
    · exact hcomponent part
    · exact h.vectors v hv
  -- For the points there is no such pool, so their identities are compared here.
  have htag : ∀ i ∈ pool.points, i.tag = iterate.tag → i = iterate := by
    intro i hi htag
    rcases hnew with hknown | hnew
    · exact hpool.point_eq i hi iterate hknown htag
    · have holder := hpool.point_old i hi
      rw [htag] at holder
      omega
  constructor
  case vector_old => exact fun v hv => h.coherent.vector_old v (hsub v hv)
  case vector_eq => exact fun v hv w hw => h.coherent.vector_eq v (hsub v hv) w (hsub w hw)
  case point_old =>
    intro i hi
    rcases List.mem_cons.1 hi with rfl | hi
    · exact hold
    · exact Nat.lt_of_lt_of_le (hpool.point_old i hi) h.supply
  case point_eq =>
    intro i hi j hj hij
    rcases List.mem_cons.1 hi with rfl | hiold <;> rcases List.mem_cons.1 hj with rfl | hjold
    · rfl
    · exact (htag j hjold hij.symm).symm
    · exact htag i hiold hij
    · exact hpool.point_eq i hiold j hjold hij
  case component_mem =>
    intro i hi part
    rcases List.mem_cons.1 hi with rfl | hi
    · exact mem_addPoint.2 (Or.inl ⟨part, rfl⟩)
    · exact mem_addPoint.2 (Or.inr (hpool.component_mem i hi part))

/-- A point that is known may be added once more. -/
theorem Coherent.addPoint_of_mem {pool : Pool α} (hpool : pool.Coherent) {iterate : Iterate α}
    (hmem : iterate ∈ pool.points) {supply : Supply} (hlater : pool.supply.next ≤ supply.next) :
    (pool.addPoint iterate supply).Coherent :=
  hpool.addPoint (hpool.grows.draw hlater) (hpool.component_mem iterate hmem) (Or.inl hmem)
    (Nat.lt_of_lt_of_le (hpool.point_old iterate hmem) hlater)

/-! ### Points -/

section
variable [Scalar α]

/-- A multiplier that is given is known, and any other is drawn. -/
theorem draws_orZeros {pool : Pool α} {given : Option (TaggedVector α)} {size : Nat}
    {v : TaggedVector α} {supply : Supply} (hgiven : ∀ w, given = some w → w ∈ pool.vectors)
    (hrun : IterateDraft.orZeros given size pool.supply = (v, supply)) :
    pool.Draws v supply := by
  cases given with
  | none => exact draws_ofList hrun
  | some w =>
      cases hrun
      exact ⟨Nat.le_refl _, Or.inl (hgiven v rfl)⟩

/-- A component that does not move is known, and any other is drawn. -/
theorem draws_moveComponent {pool : Pool α} {alpha : α} {base step v : TaggedVector α}
    {supply : Supply} (hbase : base ∈ pool.vectors)
    (hrun : (Iterate.moveComponent alpha base step).run pool.supply = (.ok v, supply)) :
    pool.Draws v supply := by
  rcases Iterate.moveComponent_eq_ok.1 hrun with ⟨-, rfl, rfl⟩ | ⟨-, -, hnew⟩
  · exact ⟨Nat.le_refl _, Or.inl hbase⟩
  · exact draws_ofList hnew

omit [Scalar α] in
/-- Drawing a vector for each family in turn. -/
theorem Grows.ofFnM {pool : Pool α} (hpool : pool.Coherent)
    {draw : Family → ExceptT (Error α) Drawing (TaggedVector α)}
    {values : PerFamily (TaggedVector α)} {supply : Supply}
    (hdraw : ∀ family (larger : Pool α) (v : TaggedVector α) (supply : Supply), pool.Grows larger →
      (draw family).run larger.supply = (.ok v, supply) → larger.Draws v supply)
    (hrun : (PerFamily.ofFnM draw).run pool.supply = (.ok values, supply)) :
    ∃ larger, pool.Grows larger ∧ larger.supply = supply
      ∧ ∀ family, values.get family ∈ larger.vectors := by
  simp only [PerFamily.ofFnM, run_bind_eq_ok, run_pure_eq_ok] at hrun
  obtain ⟨xLower, s₁, h₁, xUpper, s₂, h₂, sLower, s₃, h₃, sUpper, s₄, h₄, rfl, rfl⟩ := hrun
  -- One family after the other, each from the pool that the one before left.
  have g₁ := hpool.grows.addVector (hdraw _ pool _ _ hpool.grows h₁)
  have g₂ := g₁.addVector (hdraw _ _ _ _ g₁ h₂)
  have g₃ := g₂.addVector (hdraw _ _ _ _ g₂ h₃)
  have g₄ := g₃.addVector (hdraw _ _ _ _ g₃ h₄)
  refine ⟨_, g₄, rfl, ?_⟩
  rintro ⟨_ | _, _ | _⟩ <;> simp [PerFamily.get]

/-- Completing a draft draws the identity of the point and then a vector
for every multiplier that is not given. -/
theorem Coherent.build {pool : Pool α} (hpool : pool.Coherent) {dims : Dimensions}
    {draft : IterateDraft α} {iterate : Iterate α} {supply : Supply}
    (hgiven : ∀ v ∈ draft.given, v ∈ pool.vectors)
    (hrun : (draft.build dims).run pool.supply = (.ok iterate, supply)) :
    (pool.addPoint iterate supply).Coherent := by
  simp only [IterateDraft.build, run_bind_eq_ok, run_lift_eq_ok, run_checked_eq_ok,
    run_pure_eq_ok] at hrun
  obtain ⟨tag, s₀, htag, yC, s₁, hyC, yD, s₂, hyD, multipliers, s₃, hmultipliers, _, _, ⟨-, rfl⟩,
    rfl, rfl⟩ := hrun
  cases htag
  have hdrawn : pool.Grows { pool with supply := ⟨pool.supply.next + 1⟩ } :=
    hpool.grows.draw (Nat.le_succ _)
  have g₀ := hdrawn.coherent.grows
  -- A multiplier is one that the draft was given, or zeros that are drawn now.
  have g₁ := g₀.addVector (draws_orZeros (fun v hv => hgiven v (by
    simp [IterateDraft.given, hv])) hyC)
  have g₂ := g₁.addVector (draws_orZeros (fun v hv => g₁.vectors v (hgiven v (by
    simp [IterateDraft.given, hv]))) hyD)
  obtain ⟨larger, g₃, rfl, hmem⟩ := Grows.ofFnM g₂.coherent (by
    intro family larger v supply hlarger hrun
    refine draws_orZeros (fun w hw => hlarger.vectors w (g₂.vectors w (hgiven w ?_)))
      (run_lift_eq_ok.1 hrun)
    rcases family with ⟨_ | _, _ | _⟩ <;> simp [IterateDraft.given, Family.all, Family.xLower,
      Family.xUpper, Family.sLower, Family.sUpper, hw]) hmultipliers
  refine hpool.addPoint (hdrawn.trans (g₂.trans g₃)) ?_ (Or.inr (Nat.le_refl _))
    (g₂.trans g₃).supply
  rintro (_ | _ | _ | _ | family)
  · exact g₃.vectors _ (g₂.vectors _ (hgiven _ (by simp [IterateDraft.given, Iterate.component])))
  · exact g₃.vectors _ (g₂.vectors _ (hgiven _ (by simp [IterateDraft.given, Iterate.component])))
  · exact g₃.vectors _ (by simp [Iterate.component])
  · exact g₃.vectors _ (by simp [Iterate.component])
  · exact hmem family

/-- Moving a point draws the identity of the new point and then a vector
for every component that moves. -/
theorem Coherent.move {pool : Pool α} (hpool : pool.Coherent) {base direction iterate : Iterate α}
    {primal dual : α} {supply : Supply} (hbase : base ∈ pool.points)
    (hrun : (base.takeStep primal dual direction).run pool.supply = (.ok iterate, supply)) :
    (pool.addPoint iterate supply).Coherent := by
  simp only [Iterate.takeStep, run_bind_eq_ok, run_lift_eq_ok, run_checked_eq_ok,
    run_pure_eq_ok] at hrun
  obtain ⟨_, _, ⟨-, rfl⟩, tag, s₀, htag, x, s₁, hx, s, s₂, hs, yC, s₃, hyC, yD, s₄, hyD,
    multipliers, s₅, hmultipliers, rfl, rfl⟩ := hrun
  cases htag
  have hcomponent := hpool.component_mem base hbase
  have hdrawn : pool.Grows { pool with supply := ⟨pool.supply.next + 1⟩ } :=
    hpool.grows.draw (Nat.le_succ _)
  have g₀ := hdrawn.coherent.grows
  -- A component that does not move stays the vector of the base.
  have g₁ := g₀.addVector (draws_moveComponent (g₀.vectors _ (hcomponent .x)) hx)
  have g₂ := g₁.addVector (draws_moveComponent (g₁.vectors _ (hcomponent .s)) hs)
  have g₃ := g₂.addVector (draws_moveComponent (g₂.vectors _ (hcomponent .yC)) hyC)
  have g₄ := g₃.addVector (draws_moveComponent (g₃.vectors _ (hcomponent .yD)) hyD)
  obtain ⟨larger, g₅, rfl, hmem⟩ := Grows.ofFnM g₄.coherent (by
    intro family larger v supply hlarger hrun
    exact draws_moveComponent
      (hlarger.vectors _ (g₄.vectors _ (hcomponent (.multiplier family)))) hrun) hmultipliers
  refine hpool.addPoint (hdrawn.trans (g₄.trans g₅)) ?_ (Or.inr (Nat.le_refl _))
    (g₄.trans g₅).supply
  rintro (_ | _ | _ | _ | family)
  · exact g₅.vectors _ (by simp [Iterate.component])
  · exact g₅.vectors _ (by simp [Iterate.component])
  · exact g₅.vectors _ (by simp [Iterate.component])
  · exact g₅.vectors _ (by simp [Iterate.component])
  · exact hmem family

/-- Whatever comes into being keeps the pool coherent. -/
theorem Step.coherent {pool pool' : Pool α} (hstep : Step pool pool') (hpool : pool.Coherent) :
    pool'.Coherent := by
  cases hstep with
  | draw supply hlater => exact hpool.draw hlater
  | vector entries hrun => exact hpool.addVector (draws_ofList hrun)
  | build dims hgiven hrun => exact hpool.build hgiven hrun
  | move primal dual hbase hrun => exact hpool.move hbase hrun

/-- Whatever is created, identities tell vectors and points apart. -/
theorem Reachable.coherent {pool : Pool α} (h : Reachable pool) : pool.Coherent := by
  induction h with
  | empty => constructor <;> simp
  | step _ hstep ih => exact hstep.coherent ih

end

/-! ### Equal identities -/

section
variable {pool : Pool α} (hpool : pool.Coherent) {i j : Iterate α} (hi : i ∈ pool.points)
  (hj : j ∈ pool.points)
include hpool hi hj

/-- Components of points are equal if their identities are. -/
theorem Coherent.component_eq (part : Component)
    (htag : (i.component part).tag = (j.component part).tag) :
    i.component part = j.component part :=
  hpool.vector_eq _ (hpool.component_mem i hi part) _ (hpool.component_mem j hj part) htag

/-- So are the primal vectors of a block. -/
theorem Coherent.primal_eq (block : Block) (htag : (i.primal block).tag = (j.primal block).tag) :
    i.primal block = j.primal block := by
  cases block with
  | x => exact hpool.component_eq hi hj .x htag
  | s => exact hpool.component_eq hi hj .s htag

end

/-- And so are vectors for all families. -/
theorem Coherent.perFamily_eq {pool : Pool α} (hpool : pool.Coherent)
    {v w : PerFamily (TaggedVector α)} (hv : ∀ u ∈ v.toList, u ∈ pool.vectors)
    (hw : ∀ u ∈ w.toList, u ∈ pool.vectors)
    (htags : v.toList.map TaggedVector.tag = w.toList.map TaggedVector.tag) : v = w := by
  obtain ⟨v₁, v₂, v₃, v₄⟩ := v
  obtain ⟨w₁, w₂, w₃, w₄⟩ := w
  simp only [PerFamily.toList, List.forall_mem_cons, List.map_cons, List.cons.injEq] at hv hw htags
  -- Each of the four vectors is known by its identity.
  have h₁ := hpool.vector_eq _ hv.1 _ hw.1 htags.1
  have h₂ := hpool.vector_eq _ hv.2.1 _ hw.2.1 htags.2.1
  have h₃ := hpool.vector_eq _ hv.2.2.1 _ hw.2.2.1 htags.2.2.1
  have h₄ := hpool.vector_eq _ hv.2.2.2.1 _ hw.2.2.2.1 htags.2.2.2.1
  rw [h₁, h₂, h₃, h₄]

end Pool

/-- The points of the state are known to the pool. -/
structure State.Known (pool : Pool α) (state : State α) : Prop where
  current : state.current ∈ pool.points
  trial : ∀ i, state.trial = some i → i ∈ pool.points
  direction : ∀ i, state.direction = some i → i ∈ pool.points

/-- The point that a request is about is known. -/
theorem State.Known.iterateAt {pool : Pool α} {state : State α} (h : state.Known pool)
    {point : Point} {i : Iterate α} (hi : state.iterateAt point = .ok i) : i ∈ pool.points := by
  cases point with
  | current =>
      cases hi
      exact h.current
  | trial => exact h.trial i (State.iterateAt_trial_eq_ok.1 hi)

/-- So is the search direction that it requires. -/
theorem State.Known.requireDirection {pool : Pool α} {state : State α} (h : state.Known pool)
    {i : Iterate α} (hi : state.requireDirection = .ok i) : i ∈ pool.points :=
  h.direction i (State.requireDirection_eq_ok.1 hi)

end InteriorPoint
