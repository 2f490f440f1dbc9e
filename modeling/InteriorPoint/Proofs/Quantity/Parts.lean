import InteriorPoint.Proofs.Checked
import InteriorPoint.Proofs.Quantity.Program
import InteriorPoint.Quantity.Formula

/-!
# `InteriorPoint.Proofs.Quantity.Parts`: what a quantity is made of

The parts of a quantity are the quantities that its formula asks for
(`Quantity.parts`). The list is the table of dependencies: it is read off
the formula once (`formula_within`), for all paths and whatever the answers
are, together with the events that the formula may report. A bound on what
formulas ask for is then a statement about the table.

A quantity without parts may stand for a function of the problem
(`Quantity.callback?`), and then it reports the call of this function.
-/

set_option autoImplicit false

namespace InteriorPoint

variable {α : Type}

/-- The function of the problem that a quantity stands for. -/
def Quantity.callback? : {k : Kind} → Quantity α k → Option Callback
  | _, objective _ => some .objective
  | _, objectiveGradient => some .gradient
  | _, constraint group _ => some (.constraint group)
  | _, jacobian group => some (.jacobian group)
  | _, hessian => some .hessian
  | _, _ => none

variable [Scalar α]

namespace Quantity

/-- What a measure of the optimality error is computed from. -/
def errorParts (target : α) (norm : Norm) : List (Sigma (Quantity α)) :=
  [⟨_, .dualInfeasibility norm⟩, ⟨_, .primalInfeasibility .current norm⟩,
    ⟨_, .complementarityNorm target norm⟩]

/-- The quantities that the formula of a quantity asks for. -/
def parts (setting : Setting α) : {k : Kind} → Quantity α k → List (Sigma (Quantity α))
  | _, barrierObjective point =>
    ⟨_, .objective point⟩ :: Family.all.map fun family => ⟨_, .slack point family⟩
  | _, barrierGradient .x =>
    [⟨_, .objectiveGradient⟩, ⟨_, .slack .current .xLower⟩, ⟨_, .slack .current .xUpper⟩]
  | _, barrierGradient .s => [⟨_, .slack .current .sLower⟩, ⟨_, .slack .current .sUpper⟩]
  | _, directionalDerivative => [⟨_, .barrierGradient .x⟩, ⟨_, .barrierGradient .s⟩]
  | _, inequalityResidual point => [⟨_, .constraint .inequality point⟩]
  | _, jacobianTimes group _ | _, jacobianTransposeTimes group _ => [⟨_, .jacobian group⟩]
  | _, constraintViolation point | _, primalInfeasibility point _ =>
    [⟨_, .constraint .equality point⟩, ⟨_, .inequalityResidual point⟩]
  | _, lagrangianGradient .x =>
    [⟨_, .objectiveGradient⟩, ⟨_, .jacobianTransposeTimes .equality setting.state.current.yC⟩,
      ⟨_, .jacobianTransposeTimes .inequality setting.state.current.yD⟩]
  | _, complementarity family => [⟨_, .slack .current family⟩]
  | _, relaxedComplementarity family => [⟨_, .complementarity family⟩]
  | _, dualInfeasibility _ => [⟨_, .lagrangianGradient .x⟩, ⟨_, .lagrangianGradient .s⟩]
  | _, complementarityNorm _ _ | _, centralityMeasure =>
    Family.all.map fun family => ⟨_, .complementarity family⟩
  | _, problemError => errorParts 0 .max
  | _, barrierError => errorParts setting.mu .max
  | _, meanError => errorParts 0 .one
  | _, meanBarrierError => errorParts setting.mu .one
  | _, primalStepLimit _ _ _ | _, slackStepLimit _ _ =>
    Family.all.map fun family => ⟨_, .slack .current family⟩
  | _, primalDualScaling block =>
    [⟨_, .slack .current ⟨block, .lower⟩⟩, ⟨_, .slack .current ⟨block, .upper⟩⟩]
  | _, meanComplementarity point =>
    if setting.dims.boundCount = 0 then []
    else Family.all.map fun family => ⟨_, .slack point family⟩
  | _, _ => []

/-- The part belongs to the quantity. -/
def HasPart (setting : Setting α) {k : Kind} (quantity : Quantity α k) {k' : Kind}
    (part : Quantity α k') : Prop :=
  ⟨_, part⟩ ∈ quantity.parts setting

end Quantity

/-- The events that the formula of a quantity reports: the call of the
function that it stands for, corrections of the slack that it is, and a
barrier term that is no finite number. -/
inductive Setting.Reports (setting : Setting α) {k : Kind} (quantity : Quantity α k) :
    Event α → Prop where
  | evaluated {callback : Callback} {inputs : List Tag} (h : quantity.callback? = some callback)
      (hkey : setting.key quantity = .ok (Key.ofTags inputs)) :
      Setting.Reports setting quantity (.evaluated callback inputs)
  | safeguarded (count : Nat) {family : Family} {point : Point}
      (h : (⟨k, quantity⟩ : Sigma (Quantity α)) = ⟨.vector, .slack point family⟩) :
      Setting.Reports setting quantity (.safeguarded count family point)
  | degenerate (term : α) : Setting.Reports setting quantity (.degenerate term setting.mu)

/-- A call is reported by the quantity that stands for the function, for
the inputs that its key lists. -/
theorem Setting.reports_evaluated_iff {setting : Setting α} {k : Kind} {quantity : Quantity α k}
    {callback : Callback} {inputs : List Tag} :
    setting.Reports quantity (.evaluated callback inputs)
      ↔ quantity.callback? = some callback ∧ setting.key quantity = .ok (Key.ofTags inputs) :=
  ⟨fun | .evaluated h hkey => ⟨h, hkey⟩, fun ⟨h, hkey⟩ => .evaluated h hkey⟩

namespace Quantity

/-! ### The programs that formulas share -/

section
variable {bound : Nat} {setting : Setting α} {asks : {k : Kind} → Quantity α k → Prop}
  {reports : Event α → Prop}

omit [Scalar α] in
/-- Collecting slacks asks for the slack of every family. -/
theorem within_slacks {point : Point} {lower : 0 < bound} {returns : PerFamily (List α) → Prop}
    (hasks : ∀ family, asks (.slack point family)) (hreturns : ∀ value, returns value) :
    (slacks point lower).Within asks reports returns :=
  ⟨hasks _, fun _ => ⟨hasks _, fun _ => ⟨hasks _, fun _ => ⟨hasks _, fun _ => hreturns _⟩⟩⟩⟩

omit [Scalar α] in
/-- Collecting products asks for the products of every family. -/
theorem within_complementarities {lower : 1 < bound} {returns : PerFamily (List α) → Prop}
    (hasks : ∀ family, asks (.complementarity family)) (hreturns : ∀ value, returns value) :
    (complementarities lower).Within asks reports returns :=
  ⟨hasks _, fun _ => ⟨hasks _, fun _ => ⟨hasks _, fun _ => ⟨hasks _, fun _ => hreturns _⟩⟩⟩⟩

/-- The barrier terms of a block read both of its slacks. -/
theorem within_addBarrierGradient {block : Block} {gradient : List α} {lower : 0 < bound}
    (hasks : ∀ side, asks (.slack .current ⟨block, side⟩)) :
    (addBarrierGradient setting block gradient lower).Within asks reports fun _ => True := by
  unfold addBarrierGradient
  simp only [Program.within_bind]
  refine ⟨hasks _, fun _ => ⟨hasks _, fun _ => ?_⟩⟩
  simp [Program.Within]

/-- The step limit of a block reads both of its slacks. -/
theorem within_blockStepLimit {block : Block} {tau : α} {step : TaggedVector α} {lower : 0 < bound}
    {returns : α → Prop} (hasks : ∀ side, asks (.slack .current ⟨block, side⟩))
    (hreturns : ∀ value, returns value) :
    (blockStepLimit setting block tau step lower).Within asks reports returns := by
  unfold blockStepLimit
  simp only [Program.within_bind]
  refine ⟨hasks _, fun _ => ⟨hasks _, fun _ => ?_⟩⟩
  simp [Program.Within, hreturns]

/-- A largest scaled residual is computed from three norms. -/
theorem within_scaledError {target : α} {lower : 3 < bound}
    (hasks : ∀ part ∈ errorParts target .max, asks part.2) :
    (scaledError setting target lower).Within asks reports fun _ => True := by
  simp only [errorParts, List.forall_mem_cons] at hasks
  obtain ⟨hdual, hprimal, hcomplementarity, -⟩ := hasks
  exact ⟨hdual, fun _ => ⟨hprimal, fun _ => ⟨hcomplementarity, fun _ => trivial⟩⟩⟩

/-- A mean residual is computed from three norms. -/
theorem within_averagedError {target : α} {lower : 3 < bound}
    (hasks : ∀ part ∈ errorParts target .one, asks part.2) :
    (averagedError setting target lower).Within asks reports fun _ => True := by
  simp only [errorParts, List.forall_mem_cons] at hasks
  obtain ⟨hdual, hprimal, hcomplementarity, -⟩ := hasks
  exact ⟨hprimal, fun _ => ⟨hdual, fun _ => ⟨hcomplementarity, fun _ => trivial⟩⟩⟩

end

/-! ### Formulas -/

/-- Every formula asks for parts of its quantity only, and reports what
the quantity reports. -/
theorem formula_within (setting : Setting α) {k : Kind} (quantity : Quantity α k) :
    (quantity.formula setting).Within (quantity.HasPart setting) (setting.Reports quantity)
      fun _ => True := by
  cases quantity
  case slack point family =>
    have hreports : ∀ count, setting.Reports (.slack point family)
        (.safeguarded count family point) := fun count => .safeguarded count rfl
    obtain ⟨block, side⟩ := family
    cases side <;> simp [formula, hreports]
  case barrierObjective point =>
    simp only [formula, Program.within_bind]
    have hslack : ∀ family, HasPart setting (.barrierObjective point) (.slack point family) :=
      fun family => List.mem_cons_of_mem _ (List.mem_map.2 ⟨family, family.mem_all, rfl⟩)
    refine ⟨List.mem_cons_self, fun _ => within_slacks hslack fun _ => ?_⟩
    simp [Setting.Reports.degenerate]
  case barrierGradient block =>
    cases block with
    | x =>
        refine ⟨List.mem_cons_self, fun _ => within_addBarrierGradient fun side => ?_⟩
        cases side <;> simp [HasPart, parts, Family.xLower, Family.xUpper]
    | s =>
        refine within_addBarrierGradient fun side => ?_
        cases side <;> simp [HasPart, parts, Family.sLower, Family.sUpper]
  case lagrangianGradient block =>
    cases block <;> simp [formula, HasPart, parts]
  case complementarityNorm target norm =>
    simp only [formula, Program.within_bind]
    exact within_complementarities
      (fun family => List.mem_map.2 ⟨family, family.mem_all, rfl⟩) fun _ => trivial
  case centralityMeasure =>
    simp only [formula, Program.within_bind]
    exact within_complementarities
      (fun family => List.mem_map.2 ⟨family, family.mem_all, rfl⟩) fun _ => trivial
  case problemError => exact within_scaledError fun _ h => h
  case barrierError => exact within_scaledError fun _ h => h
  case meanError => exact within_averagedError fun _ h => h
  case meanBarrierError => exact within_averagedError fun _ h => h
  case primalStepLimit tau xStep sStep =>
    simp only [formula, Program.within_bind]
    have hslack : ∀ block side, HasPart setting (.primalStepLimit tau xStep sStep)
        (.slack .current ⟨block, side⟩) := fun block side =>
      List.mem_map.2 ⟨⟨block, side⟩, Family.mem_all _, rfl⟩
    refine within_blockStepLimit (hslack .x) fun _ => ?_
    exact within_blockStepLimit (hslack .s) fun _ => trivial
  -- The others are chains without a program in common.
  all_goals
    simp +contextual [formula, Program.ensure, Family.all, HasPart, parts, Setting.key, callback?,
      Setting.reports_evaluated_iff, Checked.pure_eq_ok]

end Quantity

end InteriorPoint
