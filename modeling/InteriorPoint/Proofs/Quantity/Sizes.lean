import InteriorPoint.Proofs.Engine.Run
import InteriorPoint.Proofs.Linear.Fitting

/-!
# `InteriorPoint.Proofs.Quantity.Sizes`: the sizes that meet in a formula

A setting is sound if its problem, its state and its damping indicators
have the same sizes. The setting of every engine that can come about is
sound (`Engine.WellFormed.sound`).

In a sound setting the operands of a formula fit together. The case on
which the others rest is that of a slack. Its distances to the bounds
(`Setting.distances`) always exist, one per bound, and the correction
goes through (`Setting.safeguarded`).

`Setting.Fits` is the size that a result has to have.
-/

set_option autoImplicit false

namespace InteriorPoint

namespace PerFamily

variable {β : Type}

/-- Reading back what was put together. -/
@[simp]
theorem get_ofFn (value : Family → β) (family : Family) :
    (ofFn value).get family = value family := by
  rcases family with ⟨_ | _, _ | _⟩ <;> rfl

/-- Four values are known from the families one by one. -/
theorem ext_get {values values' : PerFamily β}
    (h : ∀ family, values.get family = values'.get family) : values = values' := by
  obtain ⟨_, _, _, _⟩ := values
  obtain ⟨_, _, _, _⟩ := values'
  rw [PerFamily.mk.injEq]
  exact ⟨h .xLower, h .xUpper, h .sLower, h .sUpper⟩

/-- A property of all four values, in whichever way they are listed. -/
theorem forall_mem_toList {values : PerFamily β} {p : β → Prop} :
    (∀ v ∈ values.toList, p v) ↔ ∀ family, p (values.get family) := by
  have hlist : values.toList = Family.all.map values.get := rfl
  rw [hlist, List.forall_mem_map]
  exact ⟨fun h family => h family family.mem_all, fun h family _ => h family⟩

end PerFamily

variable {α : Type}

/-! ### Sizes of results -/

namespace Setting

/-- The size of the vectors that a cache keeps. -/
def length (setting : Setting α) : Slot .vector → Nat
  | .slack _ family | .complementarity family | .relaxedComplementarity family =>
    setting.dims.bounds.get family
  | .objectiveGradient | .jacobianTransposeTimes _ => setting.dims.x
  | .barrierGradient block | .lagrangianGradient block | .primalDualScaling block =>
    setting.blockSize block
  | .constraint group _ | .jacobianTimes group => setting.groupSize group
  | .inequalityResidual _ => setting.dims.s

/-- The number of rows of the matrices that a cache keeps. Their columns
are those of `x`. -/
def rowCount (setting : Setting α) : Slot .matrix → Nat
  | .hessian => setting.dims.x

/-- The number of rows of the linear maps that a cache keeps. Their
columns are those of `x`. -/
def operatorRows (setting : Setting α) : Slot .operator → Nat
  | .jacobian group => setting.groupSize group

/-- The result has the size of the results of its cache. -/
def Fits (setting : Setting α) : {k : Kind} → Slot k → Carrier α k → Prop
  | .scalar, _, _ => True
  | .vector, slot, (v : List α) => v.length = setting.length slot
  | .matrix, slot, (A : Matrix α) =>
    A.rowCount = setting.rowCount slot ∧ A.columns = setting.dims.x
  | .operator, slot, (J : Operator α) =>
    J.rowCount = setting.operatorRows slot ∧ J.columns = setting.dims.x

/-- The caches of both points keep results of the same size. -/
theorem fits_of_counterpart {setting : Setting α} {k : Kind} {slot other : Slot k}
    (h : slot.counterpart? = some other) {value : Carrier α k} (hfits : setting.Fits other value) :
    setting.Fits slot value := by
  cases slot <;> cases h <;> exact hfits

/-- The size of a result depends on the sizes of the problem only. -/
theorem Fits.congr {setting setting' : Setting α} (hdims : setting'.dims = setting.dims) {k : Kind}
    {slot : Slot k} {value : Carrier α k} (hfits : setting.Fits slot value) :
    setting'.Fits slot value := by
  have hblock : setting'.blockSize = setting.blockSize := by
    funext block
    cases block <;> simp only [blockSize, hdims]
  have hgroup : setting'.groupSize = setting.groupSize := by
    funext group
    cases group <;> simp only [groupSize, hdims]
  -- Every size is one of these, or the size of `x`.
  cases k with
  | scalar => trivial
  | vector =>
      refine Eq.trans hfits ?_
      cases slot <;> simp only [length, hdims, hblock, hgroup]
  | matrix =>
      obtain ⟨hrows, hcolumns⟩ := hfits
      refine ⟨hrows.trans ?_, hcolumns.trans (congrArg _ hdims).symm⟩
      cases slot
      simp only [rowCount, hdims]
  | operator =>
      obtain ⟨hrows, hcolumns⟩ := hfits
      refine ⟨hrows.trans ?_, hcolumns.trans (congrArg _ hdims).symm⟩
      cases slot
      simp only [operatorRows, hgroup]

/-- The current point is always there. -/
theorem iterateAt_current (setting : Setting α) :
    setting.state.iterateAt .current = .ok setting.state.current :=
  rfl

variable [Scalar α]

/-- The problem, the state and the damping indicators fit together. -/
structure Sound (setting : Setting α) : Prop where
  valid : setting.state.Valid
  dims : setting.problem.dimensions = setting.dims
  damping : setting.damping
    = dampingIndicators setting.problem.xBounds setting.problem.dBounds

end Setting

namespace Engine

variable [Scalar α]

omit [Scalar α] in
/-- Only equal sizes are accepted. -/
theorem ensureDimensions_eq_ok {expected found : Dimensions} :
    (ensureDimensions expected found : Checked α Unit) = .ok () ↔ expected = found := by
  obtain ⟨x, s, c, xLower, xUpper, sLower, sUpper⟩ := expected
  obtain ⟨x', s', c', xLower', xUpper', sLower', sUpper'⟩ := found
  simp only [ensureDimensions, Checked.check_bind_eq_ok, Checked.forM_eq_ok, ensureSize_eq_ok,
    Family.all, List.forall_mem_cons, Dimensions.mk.injEq, PerFamily.mk.injEq]
  simp [PerFamily.get, Family.xLower, Family.xUpper, Family.sLower, Family.sUpper]

/-- The setting of an engine that can come about is sound. -/
theorem WellFormed.sound {engine : Engine α} (h : engine.WellFormed) : engine.setting.Sound := by
  -- Such an engine looks as if it had just been made, with the checks made then.
  obtain ⟨-, hdims, hfresh⟩ := Engine.new_eq_ok.1 h.new_eq_ok
  exact ⟨h.valid, ensureDimensions_eq_ok.1 hdims, congrArg (·.setting.damping) hfresh⟩

end Engine

/-! ### Operands -/

namespace Setting.Sound

variable [Scalar α] {setting : Setting α}

section
variable (h : setting.Sound)
include h

/-- A family has as many bounds as values of bounds. -/
theorem length_values (family : Family) :
    (setting.problem.limits family).values.length = setting.dims.bounds.get family := by
  rw [← h.dims]
  rcases family with ⟨_ | _, _ | _⟩ <;> rfl

/-- A family has as many bounds as its selection has indices. -/
theorem selection_size (family : Family) :
    (setting.problem.limits family).selection.size = setting.dims.bounds.get family :=
  (setting.problem.limits family).aligned.symm.trans (h.length_values family)

/-- Both sides of a block select from the whole block. -/
theorem selection_dim (block : Block) (side : Side) :
    (setting.problem.limits ⟨block, side⟩).selection.dim = setting.blockSize block := by
  have hx : setting.dims.x = setting.problem.xBounds.dim := by rw [← h.dims]; rfl
  have hs : setting.dims.s = setting.problem.dBounds.dim := by rw [← h.dims]; rfl
  cases block <;> cases side
  · exact hx.symm
  · exact setting.problem.xBounds.same_dim.symm.trans hx.symm
  · exact hs.symm
  · exact setting.problem.dBounds.same_dim.symm.trans hs.symm

/-- A family has as many damping indicators as bounds. -/
theorem length_damping (family : Family) :
    (setting.damping.get family).length = setting.dims.bounds.get family := by
  rw [h.damping, ← h.selection_size family]
  -- The indicators are computed entry by entry from the kinds of the bounds.
  rcases family with ⟨_ | _, _ | _⟩ <;> exact List.length_map _

variable {point : Point} {iterate : Iterate α} (hat : setting.state.iterateAt point = .ok iterate)
include hat

/-- The variables of a block have the size of the block. -/
theorem length_primal (block : Block) :
    (iterate.primal block).entries.length = setting.blockSize block := by
  have hfits := h.valid.iterateAt hat
  cases block
  · exact (hfits .x).symm
  · exact (hfits .s).symm

/-- A family has as many multipliers as bounds. -/
theorem length_multiplier (family : Family) :
    (iterate.multipliers.get family).entries.length = setting.dims.bounds.get family :=
  (h.valid.iterateAt hat (.multiplier family)).symm

/-- The multipliers of the equality constraints fit the constraints. -/
theorem length_yC : iterate.yC.entries.length = setting.dims.c :=
  (h.valid.iterateAt hat .yC).symm

/-- The multipliers of the inequality constraints fit the constraints. -/
theorem length_yD : iterate.yD.entries.length = setting.dims.s :=
  (h.valid.iterateAt hat .yD).symm

end

end Setting.Sound

/-! ### Slacks -/

section
variable [Scalar α]

/-- The distances of a point of the full space to the bounds on one side,
each counted towards the inside. -/
def Limits.distances (limits : Limits α) (side : Side) (full : List α) : List α :=
  let selected := limits.selection.indices.map (full.getD · 0)
  match side with
  | .lower => List.zipWith (· - ·) selected limits.values
  | .upper => List.zipWith (· - ·) limits.values selected

/-- The distances to the bounds of a family, for variables with the given
entries. -/
def Setting.distances (setting : Setting α) (family : Family) (full : List α) : List α :=
  (setting.problem.limits family).distances family.side full

/-- How many of these distances need a correction. -/
def Setting.collapsed (setting : Setting α) (family : Family) (full : List α) : Nat :=
  (setting.distances family full).countP fun distance => ¬ Slack.least setting.mu ≤ distance

namespace Setting.Sound

variable {setting : Setting α} (h : setting.Sound) {point : Point} {iterate : Iterate α}
  (hat : setting.state.iterateAt point = .ok iterate)
include h

/-- There is one distance per bound, whatever the full vector is. -/
theorem length_distances (family : Family) (full : List α) :
    (setting.distances family full).length = setting.dims.bounds.get family := by
  have hselected : ((setting.problem.limits family).selection.indices.map (full.getD · 0)).length
      = setting.dims.bounds.get family :=
    (List.length_map _).trans (h.selection_size family)
  unfold Setting.distances Limits.distances
  split <;> rw [List.length_zipWith, hselected, h.length_values family, Nat.min_self]

include hat

/-- The correction of a slack goes through. -/
theorem safeguarded (family : Family) :
    Checked.Gives
      (Slack.safeguard setting.mu setting.options.boundMove
        (setting.distances family (iterate.primal family.block).entries)
        (setting.problem.limits family).values (iterate.multipliers.get family).entries)
      fun result => result.1.length = setting.dims.bounds.get family
        ∧ result.2 = setting.collapsed family (iterate.primal family.block).entries := by
  have hlength := h.length_distances family (iterate.primal family.block).entries
  -- The correction keeps the number of entries, which the bounds and the multipliers share.
  rw [← hlength]
  exact Slack.gives_safeguard _ _ (hlength.trans (h.length_values family).symm)
    (hlength.trans (h.length_multiplier hat family).symm)

/-- The formula of a slack corrects the distances and reports how many it
has corrected. -/
theorem formula_slack (family : Family) :
    (Quantity.slack point family).formula setting
      = (liftM (Slack.safeguard setting.mu setting.options.boundMove
            (setting.distances family (iterate.primal family.block).entries)
            (setting.problem.limits family).values
            (iterate.multipliers.get family).entries) : Program α _ _) >>= fun result => do
          if 0 < result.2 then Program.tell (.safeguarded result.2 family point)
          return result.1 := by
  obtain ⟨block, side⟩ := family
  have hselect := (setting.problem.limits ⟨block, side⟩).selection.select_eq_ok
    ((h.length_primal hat block).trans (h.selection_dim block side).symm)
  have hselected : ((setting.problem.limits ⟨block, side⟩).selection.indices.map
      ((iterate.primal block).entries.getD · 0)).length
      = (setting.problem.limits ⟨block, side⟩).values.length :=
    (List.length_map _).trans
      ((h.selection_size ⟨block, side⟩).trans (h.length_values ⟨block, side⟩).symm)
  -- The sides differ only in which operand comes first.
  cases side
  all_goals
    simp only [Quantity.formula, hat, Program.lift_ok_bind, hselect, Linear.sub, Linear.pairwise,
      if_pos hselected, if_pos hselected.symm]
    rfl

end Setting.Sound

end

end InteriorPoint
