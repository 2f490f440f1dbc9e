import InteriorPoint.Proofs.Quantity.Requests
import InteriorPoint.Proofs.Quantity.Sizes
import InteriorPoint.Proofs.Quantity.Value

/-!
# `InteriorPoint.Proofs.Quantity.Refusals`: why a formula gives up

In a sound setting a formula whose key exists gives up for one reason
only. A function of the problem has returned something of another size
than is expected (`Setting.Misshaped`). No elementary operation on the
way meets operands that do not fit, and no part that the formula asks
for is refused for want of a point or an argument.

`Setting.Safe` says so of a program, together with what is known of the
value that it returns. It is proved of every formula from the rules for
single steps (`Setting.Sound.safe_formula`). What a formula knows of the
answers it gets is their size. By induction on the rank, every value has
the size that belongs to its cache (`Setting.Sound.fits_value`).
-/

set_option autoImplicit false

namespace InteriorPoint

variable {α : Type}

/-- The quantity is taken along the search direction. -/
def Quantity.NeedsDirection : {k : Kind} → Quantity α k → Prop
  | _, directionalDerivative => True
  | _, _ => False

/-- The fraction of a step length. -/
def Quantity.fraction? : {k : Kind} → Quantity α k → Option α
  | _, primalStepLimit tau _ _ | _, dualStepLimit tau _ | _, slackStepLimit tau _ => some tau
  | _, _ => none

namespace Setting

/-- The vectors among the arguments of a quantity: for each the name under
which it is checked, the size that is expected, and the vector. -/
def arguments (setting : Setting α) :
    {k : Kind} → Quantity α k → List (String × Nat × TaggedVector α)
  | _, .jacobianTimes group v =>
    [("vector multiplied by J_" ++ group.label, setting.dims.x, v)]
  | _, .jacobianTransposeTimes group v =>
    [("vector multiplied by J_" ++ group.label ++ "^T", setting.groupSize group, v)]
  | _, .primalStepLimit _ xStep sStep =>
    [("delta_x length", setting.dims.x, xStep), ("delta_s length", setting.dims.s, sStep)]
  | _, .dualStepLimit _ steps => Family.all.map fun family =>
    ("bound multiplier step", setting.dims.bounds.get family, steps.get family)
  | _, .slackStepLimit _ steps => Family.all.map fun family =>
    ("slack step", setting.dims.bounds.get family, steps.get family)
  | _, _ => []

variable [Scalar α]

/-- Why a quantity has no key: its point or the search direction is not
set, its fraction is out of range, or an argument has the wrong size. -/
inductive Denies (setting : Setting α) {k : Kind} (quantity : Quantity α k) : Error α → Prop where
  | trial (hpoint : quantity.point = .trial) (hmissing : setting.state.trial = none) :
      Denies setting quantity (.missingComponent "trial iterate")
  | direction (hneeds : quantity.NeedsDirection) (hmissing : setting.state.direction = none) :
      Denies setting quantity (.missingComponent "search direction")
  | fraction {tau : α} (htau : quantity.fraction? = some tau) (hout : ¬ (0 < tau ∧ tau ≤ 1)) :
      Denies setting quantity (.invalidParameter "tau" tau "(0, 1]")
  | argument {context : String} {size : Nat} {v : TaggedVector α}
      (hargument : (context, size, v) ∈ setting.arguments quantity) (hwrong : size ≠ v.size) :
      Denies setting quantity (.dimensionMismatch context size v.size)

/-- The sizes of what a function of the problem returns at a point: for
each the name under which it is checked, the size that is expected, and
the size that is found. -/
def resultSizes (setting : Setting α) (iterate : Iterate α) :
    Callback → List (String × Nat × Nat)
  | .objective => []
  | .gradient =>
    let gradient := setting.problem.callbacks.gradient iterate.x.entries
    [("objective gradient length", setting.dims.x, gradient.length)]
  | .constraint group =>
    let values := setting.problem.callbacks.constraint group iterate.x.entries
    [(group.label ++ "(x) length", setting.groupSize group, values.length)]
  | .jacobian group =>
    let operator := setting.problem.callbacks.jacobian group iterate.x.entries
    [("Jacobian of " ++ group.label, setting.groupSize group, operator.rowCount),
      ("Jacobian of " ++ group.label, setting.dims.x, operator.columns)]
  | .hessian =>
    let matrix := setting.problem.callbacks.hessian iterate.x.entries 1 iterate.yC.entries
      iterate.yD.entries
    [("Hessian rows", setting.dims.x, matrix.rowCount),
      ("Hessian columns", setting.dims.x, matrix.columns)]

/-- The report that a function of the problem has returned something of
the wrong size at a point. -/
inductive Misshaped (setting : Setting α) (point : Point) : Error α → Prop where
  | result {iterate : Iterate α} {callback : Callback} {context : String} {expected found : Nat}
      (hat : setting.state.iterateAt point = .ok iterate)
      (hresult : (context, expected, found) ∈ setting.resultSizes iterate callback)
      (hwrong : expected ≠ found) :
      Misshaped setting point (.dimensionMismatch context expected found)

/-- On every path on which the answers have the right sizes, the program
asks only for quantities at the point that have a key, gives up only
because of a function of the problem, and returns only values in
`returns`. -/
def Safe (setting : Setting α) (point : Point) {bound : Nat} {β : Type} (returns : β → Prop) :
    Program α bound β → Prop
  | .done value => returns value
  | .fail error => setting.Misshaped point error
  | .report _ next => setting.Safe point returns next
  | .ask part _ next => part.point = point ∧ (∃ key, setting.key part = .ok key)
      ∧ ∀ value, setting.Fits part.slot value → setting.Safe point returns (next value)

/-! ### Single steps -/

section
variable {setting : Setting α} {point : Point} {bound : Nat} {β γ : Type} {returns : β → Prop}

/-- One safe program after another, which may rely on what the first
returns. -/
theorem Safe.bind {returns' : γ → Prop} {p : Program α bound β} {next : β → Program α bound γ}
    (h : setting.Safe point returns p)
    (hnext : ∀ value, returns value → setting.Safe point returns' (next value)) :
    setting.Safe point returns' (p >>= next) := by
  change setting.Safe point returns' (p.bind next)
  -- On the requests and reports of the first program: what follows them is safe again.
  induction p with
  | done value => exact hnext value h
  | fail error => exact h
  | report event rest ih => exact ih h
  | ask part lower rest ih =>
      obtain ⟨hpoint, hkey, hrest⟩ := h
      exact ⟨hpoint, hkey, fun value hfits => ih value (hrest value hfits)⟩

/-- A program that ends at once is safe where its result is allowed. -/
theorem safe_pure {value : β} (h : returns value) :
    setting.Safe point returns (pure value : Program α bound β) :=
  h

/-- Reporting an event is safe. -/
theorem safe_tell (event : Event α) :
    setting.Safe point (fun _ => True) (Program.tell event : Program α bound Unit) :=
  trivial

/-- An operation that has a result. -/
theorem safe_lift {checked : Checked α β} (h : Checked.Gives checked returns) :
    setting.Safe point returns (liftM checked : Program α bound β) := by
  obtain ⟨value, rfl, hvalue⟩ := h
  exact hvalue

/-- The check of a size that a function of the problem has returned. -/
theorem safe_ensure {iterate : Iterate α} (hat : setting.state.iterateAt point = .ok iterate)
    (callback : Callback) {context : String} {expected found : Nat}
    (hresult : (context, expected, found) ∈ setting.resultSizes iterate callback) :
    setting.Safe point (fun _ => found = expected)
      (Program.ensure context expected found : Program α bound Unit) := by
  unfold Program.ensure ensureSize
  split
  · rename_i hsize
    exact hsize.symm
  · rename_i hwrong
    exact .result hat hresult hwrong

/-- A safe program for each of the four families. -/
theorem safe_ofFnM {value : Family → Program α bound β} {returns : Family → β → Prop}
    (h : ∀ family, setting.Safe point (returns family) (value family)) :
    setting.Safe point (fun values => ∀ family, returns family (values.get family))
      (PerFamily.ofFnM value) := by
  refine (h .xLower).bind fun xLower hxLower => (h .xUpper).bind fun xUpper hxUpper => ?_
  refine (h .sLower).bind fun sLower hsLower => (h .sUpper).bind fun sUpper hsUpper => ?_
  refine safe_pure ?_
  -- Each value was returned for its own family.
  rintro ⟨_ | _, _ | _⟩
  · exact hxLower
  · exact hxUpper
  · exact hsLower
  · exact hsUpper

/-- A safe step, repeated along a list. -/
theorem safe_foldlM {δ : Type} {step : β → δ → Program α bound β}
    (h : ∀ value entry, setting.Safe point (fun _ => True) (step value entry)) (entries : List δ)
    (initial : β) : setting.Safe point (fun _ => True) (entries.foldlM step initial) := by
  induction entries generalizing initial with
  | nil => exact safe_pure trivial
  | cons entry rest ih =>
      rw [List.foldlM_cons]
      exact (h initial entry).bind fun value _ => ih value

end

/-! ### Keys -/

section
variable {setting : Setting α}

/-- A point that is not set is a reason. -/
theorem denies_of_iterateAt {k : Kind} {quantity : Quantity α k} {error : Error α}
    (h : setting.state.iterateAt quantity.point = .error error) :
    setting.Denies quantity error := by
  rcases hpoint : quantity.point <;> rw [hpoint] at h
  · cases h
  · rcases hmissing : setting.state.trial with _ | trial <;>
      simp only [State.iterateAt, hmissing] at h <;> cases h
    exact .trial hpoint hmissing

/-- A fraction that its check refuses is a reason. -/
theorem denies_of_ensureFraction {k : Kind} {quantity : Quantity α k} {tau : α} {error : Error α}
    (htau : quantity.fraction? = some tau) (h : StepLimit.ensureFraction tau = .error error) :
    setting.Denies quantity error := by
  unfold StepLimit.ensureFraction at h
  split at h
  · cases h
  · rename_i hout
    cases h
    exact .fraction htau hout

/-- A vector that its check refuses is a reason. -/
theorem denies_of_ensureSize {k : Kind} {quantity : Quantity α k} {context : String} {size : Nat}
    {v : TaggedVector α} {error : Error α}
    (hargument : (context, size, v) ∈ setting.arguments quantity)
    (h : ensureSize context size v.size = .error error) : setting.Denies quantity error := by
  obtain ⟨hwrong, rfl⟩ := ensureSize_eq_error.1 h
  exact .argument hargument hwrong

/-- So is a refusal among the checks of all four families. -/
theorem denies_of_ensureStepSizes {k : Kind} {quantity : Quantity α k} {context : String}
    {steps : PerFamily (TaggedVector α)} {error : Error α}
    (hargument : ∀ family,
      (context, setting.dims.bounds.get family, steps.get family) ∈ setting.arguments quantity)
    (h : setting.ensureStepSizes context steps = .error error) : setting.Denies quantity error := by
  obtain ⟨family, -, hfamily⟩ := Checked.exists_of_forM_eq_error h
  exact denies_of_ensureSize (hargument family) hfamily

/-- A quantity without a key is denied one for a reason. -/
theorem denies_of_key {k : Kind} {quantity : Quantity α k} {error : Error α}
    (hkey : setting.key quantity = .error error) : setting.Denies quantity error := by
  -- Each check that stands before a key has a reason of its own.
  cases quantity <;> simp only [Setting.key, Setting.productKey, Checked.bind_eq_error,
    Checked.pure_ne_error, and_false, exists_false, or_false] at hkey
  case slack | objective | barrierObjective | constraint | inequalityResidual | constraintViolation
    | primalInfeasibility | meanComplementarity =>
    exact denies_of_iterateAt hkey
  case directionalDerivative =>
    rcases hmissing : setting.state.direction with _ | direction <;>
      simp only [State.requireDirection, hmissing] at hkey <;> cases hkey
    exact .direction trivial hmissing
  case jacobianTimes group v => exact denies_of_ensureSize List.mem_cons_self hkey
  case jacobianTransposeTimes group v => exact denies_of_ensureSize List.mem_cons_self hkey
  case primalStepLimit tau xStep sStep =>
    rcases hkey with htau | ⟨_, -, hx | ⟨_, -, hs⟩⟩
    · exact denies_of_ensureFraction rfl htau
    · exact denies_of_ensureSize List.mem_cons_self hx
    · exact denies_of_ensureSize (List.mem_cons_of_mem _ List.mem_cons_self) hs
  case dualStepLimit tau steps =>
    rcases hkey with htau | ⟨_, -, hsteps⟩
    · exact denies_of_ensureFraction rfl htau
    · exact denies_of_ensureStepSizes (fun family => List.mem_map_of_mem family.mem_all) hsteps
  case slackStepLimit tau steps =>
    rcases hkey with htau | ⟨_, -, hsteps⟩
    · exact denies_of_ensureFraction rfl htau
    · exact denies_of_ensureStepSizes (fun family => List.mem_map_of_mem family.mem_all) hsteps

/-- What is denied for no reason has a key. -/
theorem exists_key {k : Kind} {quantity : Quantity α k}
    (h : ∀ error, ¬ setting.Denies quantity error) : ∃ key, setting.key quantity = .ok key := by
  rcases hkey : setting.key quantity with error | key
  · exact absurd (denies_of_key hkey) (h error)
  · exact ⟨key, rfl⟩

/-- The point of a quantity that has a key is set. -/
theorem iterateAt_of_key {k : Kind} {quantity : Quantity α k} {key : Key α}
    (hkey : setting.key quantity = .ok key) :
    ∃ iterate, setting.state.iterateAt quantity.point = .ok iterate := by
  cases quantity
  case slack | objective | barrierObjective | constraint | inequalityResidual | constraintViolation
    | primalInfeasibility | meanComplementarity =>
    simp only [Setting.key, Checked.bind_eq_ok] at hkey
    obtain ⟨iterate, hat, -⟩ := hkey
    exact ⟨iterate, hat⟩
  all_goals exact ⟨_, rfl⟩

/-- A quantity whose point is set and whose arguments fit is denied a key
for its fraction only. -/
theorem Denies.exists_fraction {k : Kind} {quantity : Quantity α k} {error : Error α}
    (h : setting.Denies quantity error) {iterate : Iterate α}
    (hat : setting.state.iterateAt quantity.point = .ok iterate)
    (hdirection : ¬ quantity.NeedsDirection)
    (harguments : ∀ argument ∈ setting.arguments quantity, argument.2.1 = argument.2.2.size) :
    ∃ tau, quantity.fraction? = some tau ∧ ¬ (0 < tau ∧ tau ≤ 1)
      ∧ error = .invalidParameter "tau" tau "(0, 1]" := by
  cases h with
  | trial hpoint hmissing =>
      rw [hpoint, State.iterateAt_trial_eq_ok, hmissing] at hat
      cases hat
  | direction hneeds => exact absurd hneeds hdirection
  | fraction htau hout => exact ⟨_, htau, hout, rfl⟩
  | argument hargument hwrong => exact absurd (harguments _ hargument) hwrong

/-- The request for a part at a point that is set, with vectors that
fit. -/
theorem safe_value_of_arguments {bound : Nat} {k : Kind} (part : Quantity α k)
    {lower : part.rank < bound} {iterate : Iterate α}
    (hat : setting.state.iterateAt part.point = .ok iterate)
    (hdirection : ¬ part.NeedsDirection) (hfraction : part.fraction? = none)
    (harguments : ∀ argument ∈ setting.arguments part, argument.2.1 = argument.2.2.size) :
    setting.Safe part.point (fun value : Carrier α k => setting.Fits part.slot value)
      (Program.value part lower) := by
  refine ⟨rfl, exists_key fun error hdenies => ?_, fun _ hfits => hfits⟩
  obtain ⟨tau, htau, -⟩ := hdenies.exists_fraction hat hdirection harguments
  rw [hfraction] at htau
  cases htau

/-- The request for a part that takes no argument of its own. -/
theorem safe_value {bound : Nat} {k : Kind} (part : Quantity α k) {lower : part.rank < bound}
    {iterate : Iterate α} (hat : setting.state.iterateAt part.point = .ok iterate)
    (hplain : ¬ part.NeedsDirection ∧ part.fraction? = none ∧ setting.arguments part = []) :
    setting.Safe part.point (fun value : Carrier α k => setting.Fits part.slot value)
      (Program.value part lower) := by
  obtain ⟨hdirection, hfraction, hnone⟩ := hplain
  refine safe_value_of_arguments part hat hdirection hfraction ?_
  rw [hnone]
  exact fun _ hmem => absurd hmem List.not_mem_nil

end

/-! ### The programs that formulas share -/

section
variable {setting : Setting α} {bound : Nat}

/-- The request for a slack. -/
theorem safe_slackValue {point : Point} {iterate : Iterate α}
    (hat : setting.state.iterateAt point = .ok iterate) {lower : 0 < bound} (family : Family) :
    setting.Safe point (fun slack => slack.length = setting.dims.bounds.get family)
      (Program.value (.slack point family) lower) :=
  safe_value (.slack point family) hat ⟨id, rfl, rfl⟩

/-- The requests for the slacks of all families. -/
theorem safe_slacks {point : Point} {iterate : Iterate α}
    (hat : setting.state.iterateAt point = .ok iterate) {lower : 0 < bound} :
    setting.Safe point
      (fun slacks => ∀ family, (slacks.get family).length = setting.dims.bounds.get family)
      (Quantity.slacks point lower) :=
  safe_ofFnM (safe_slackValue hat)

/-- The requests for the complementarity products of all families. -/
theorem safe_complementarities {lower : 1 < bound} :
    setting.Safe .current
      (fun products => ∀ family, (products.get family).length = setting.dims.bounds.get family)
      (Quantity.complementarities lower) :=
  safe_ofFnM fun family =>
    safe_value (.complementarity family) setting.iterateAt_current ⟨id, rfl, rfl⟩

/-- The program of the scaled errors. -/
theorem safe_scaledError {target : α} {lower : 3 < bound} :
    setting.Safe .current (fun _ => True) (Quantity.scaledError setting target lower) := by
  refine (safe_value (.dualInfeasibility .max) rfl ⟨id, rfl, rfl⟩).bind fun _ _ => ?_
  refine (safe_value (.primalInfeasibility .current .max) rfl ⟨id, rfl, rfl⟩).bind fun _ _ => ?_
  exact (safe_value (.complementarityNorm target .max) rfl ⟨id, rfl, rfl⟩).bind
    fun _ _ => safe_pure trivial

/-- The program of the mean errors. -/
theorem safe_averagedError {target : α} {lower : 3 < bound} :
    setting.Safe .current (fun _ => True) (Quantity.averagedError setting target lower) := by
  refine (safe_value (.primalInfeasibility .current .one) rfl ⟨id, rfl, rfl⟩).bind fun _ _ => ?_
  refine (safe_value (.dualInfeasibility .one) rfl ⟨id, rfl, rfl⟩).bind fun _ _ => ?_
  exact (safe_value (.complementarityNorm target .one) rfl ⟨id, rfl, rfl⟩).bind
    fun _ _ => safe_pure trivial

variable (h : setting.Sound)
include h

/-- The barrier term exists for slacks of the right sizes. -/
theorem Sound.barrierTerm_eq_ok {slacks : PerFamily (List α)}
    (hslacks : ∀ family, (slacks.get family).length = setting.dims.bounds.get family) :
    barrierTerm setting slacks =
      let barrier := -setting.mu * Scalar.sum
        (slacks.toList.map fun slack => Scalar.sum (slack.map Scalar.log))
      .ok (if 0 < setting.options.dampingWeight then
        barrier + setting.options.dampingWeight * setting.mu * Scalar.sum
          (Family.all.map fun family =>
            Linear.laneDot (setting.damping.get family) (slacks.get family))
      else barrier) := by
  -- There is a damping indicator for every slack.
  have hdot : ∀ family, Linear.dot (setting.damping.get family) (slacks.get family)
      = .ok (Linear.laneDot (setting.damping.get family) (slacks.get family)) :=
    fun family => Linear.dot_eq_ok ((h.length_damping family).trans (hslacks family).symm)
  unfold barrierTerm
  simp only [Family.all, List.mapM_cons, List.mapM_nil, hdot, Checked.ok_bind, List.map_cons,
    List.map_nil]
  split <;> rfl

/-- A vector with an entry for every bound of a side is added to one of
the whole block. -/
theorem Sound.gives_scatterAdd (block : Block) (side : Side) (alpha : α) {v target : List α}
    (hv : v.length = setting.dims.bounds.get ⟨block, side⟩)
    (htarget : target.length = setting.blockSize block) :
    Checked.Gives ((setting.problem.limits ⟨block, side⟩).selection.scatterAdd alpha v target)
      fun result => result.length = setting.blockSize block := by
  rw [← h.selection_dim block side] at htarget ⊢
  exact Selection.gives_scatterAdd _ alpha (hv.trans (h.selection_size _).symm) htarget

/-- The program that adds the terms of the barrier to a gradient. It keeps
the size of the gradient. -/
theorem Sound.safe_addBarrierGradient (block : Block) {gradient : List α}
    (hgradient : gradient.length = setting.blockSize block) {lower : 0 < bound} :
    setting.Safe .current (fun result => result.length = setting.blockSize block)
      (Quantity.addBarrierGradient setting block gradient lower) := by
  have hscatter := h.gives_scatterAdd block
  unfold Quantity.addBarrierGradient
  refine (safe_slackValue rfl ⟨block, .lower⟩).bind fun lowerSlack hlower => ?_
  refine (safe_slackValue rfl ⟨block, .upper⟩).bind fun upperSlack hupper => ?_
  -- The gradient keeps its size through every addition.
  refine (safe_lift (hscatter .lower _ ((List.length_map _).trans hlower) hgradient)).bind
    fun gradient hgradient => ?_
  refine (safe_lift (hscatter .upper _ ((List.length_map _).trans hupper) hgradient)).bind
    fun gradient hgradient => ?_
  dsimp only
  split
  · refine (safe_lift (hscatter .lower _ (h.length_damping _) hgradient)).bind
      fun gradient hgradient => ?_
    exact safe_lift (hscatter .upper _ (h.length_damping _) hgradient)
  · exact safe_pure hgradient

/-- The bound multipliers are added to a gradient of the right size. -/
theorem Sound.gives_addMultiplierGradient (block : Block) {gradient : List α}
    (hgradient : gradient.length = setting.blockSize block) :
    Checked.Gives (Quantity.addMultiplierGradient setting block gradient)
      fun result => result.length = setting.blockSize block := by
  have hmultiplier := fun side => h.length_multiplier setting.iterateAt_current ⟨block, side⟩
  unfold Quantity.addMultiplierGradient
  refine (h.gives_scatterAdd block .lower _ (hmultiplier .lower) hgradient).bind
    fun gradient hgradient => ?_
  exact h.gives_scatterAdd block .upper _ (hmultiplier .upper) hgradient

/-- The program of the step limit of a block. -/
theorem Sound.safe_blockStepLimit (block : Block) (tau : α) {step : TaggedVector α}
    (hstep : step.entries.length = setting.blockSize block) {lower : 0 < bound} :
    setting.Safe .current (fun _ => True)
      (Quantity.blockStepLimit setting block tau step lower) := by
  unfold Quantity.blockStepLimit
  refine (safe_slackValue rfl ⟨block, .lower⟩).bind fun lowerSlack hlower => ?_
  refine (safe_slackValue rfl ⟨block, .upper⟩).bind fun upperSlack hupper => ?_
  -- The step has the size of the block, from which both sides select.
  have hselect : ∀ side, Checked.Gives
      ((setting.problem.limits ⟨block, side⟩).selection.select step.entries)
      fun result => result.length = setting.dims.bounds.get ⟨block, side⟩ := by
    intro side
    rw [← h.selection_size]
    exact Selection.gives_select _ (hstep.trans (h.selection_dim block side).symm)
  refine (safe_lift (hselect .lower)).bind fun lowerStep hlowerStep => ?_
  refine (safe_lift (hselect .upper)).bind fun upperStep hupperStep => ?_
  have hopposite : (Linear.neg upperStep).length = setting.dims.bounds.get ⟨block, .upper⟩ :=
    (List.length_map _).trans hupperStep
  have hlowerLimit := StepLimit.gives_fractionToBoundary tau hlower hlowerStep
  have hupperLimit := StepLimit.gives_fractionToBoundary tau hupper hopposite
  refine (safe_lift hlowerLimit).bind fun _ _ => (safe_lift hupperLimit).bind fun _ _ => ?_
  exact safe_pure trivial

/-! ### Formulas -/

/-- The formula of a slack. -/
theorem Sound.safe_slack {point : Point} {iterate : Iterate α}
    (hat : setting.state.iterateAt point = .ok iterate) (family : Family) :
    setting.Safe point (fun slack => slack.length = setting.dims.bounds.get family)
      ((Quantity.slack point family).formula setting) := by
  rw [h.formula_slack hat]
  refine (safe_lift (h.safeguarded hat family)).bind fun result hresult => ?_
  split
  · exact (safe_tell _).bind fun _ _ => safe_pure hresult.1
  · exact safe_pure hresult.1

/-- The formula of the barrier function. -/
theorem Sound.safe_barrierObjective {point : Point} {iterate : Iterate α}
    (hat : setting.state.iterateAt point = .ok iterate) :
    setting.Safe point (fun _ => True) ((Quantity.barrierObjective point).formula setting) := by
  refine (safe_value (.objective point) hat ⟨id, rfl, rfl⟩).bind fun f _ => ?_
  refine (safe_slacks hat).bind fun slacks hslacks => ?_
  have hterm : Checked.Gives (barrierTerm setting slacks) fun _ => True :=
    .of_eq (h.barrierTerm_eq_ok hslacks) trivial
  refine (safe_lift hterm).bind fun term _ => ?_
  split
  · exact safe_pure trivial
  · exact (safe_tell _).bind fun _ _ => safe_pure trivial

/-- The formula of the directional derivative, in a direction that is set.
-/
theorem Sound.safe_directionalDerivative {direction : Iterate α}
    (hdirection : setting.state.requireDirection = .ok direction) :
    setting.Safe .current (fun _ => True) (Quantity.directionalDerivative.formula setting) := by
  have hfits := h.valid.direction direction (State.requireDirection_eq_ok.1 hdirection)
  simp only [Quantity.formula, hdirection, Program.lift_ok_bind]
  refine (safe_value (.barrierGradient .x) rfl ⟨id, rfl, rfl⟩).bind fun xGradient hx => ?_
  refine (safe_value (.barrierGradient .s) rfl ⟨id, rfl, rfl⟩).bind fun sGradient hs => ?_
  refine (safe_lift (Linear.gives_dot hx (hfits .x).symm)).bind fun _ _ => ?_
  exact (safe_lift (Linear.gives_dot hs (hfits .s).symm)).bind fun _ _ => safe_pure trivial

/-- The multipliers of the current point fit the Jacobians. -/
theorem Sound.safe_lagrangianGradient (block : Block) :
    setting.Safe .current (fun gradient => gradient.length = setting.blockSize block)
      ((Quantity.lagrangianGradient block).formula setting) := by
  have hyC := h.length_yC setting.iterateAt_current
  have hyD := h.length_yD setting.iterateAt_current
  cases block with
  | x =>
      refine (safe_value .objectiveGradient rfl ⟨id, rfl, rfl⟩).bind fun gradient hgradient => ?_
      refine (safe_value_of_arguments
        (.jacobianTransposeTimes .equality setting.state.current.yC) rfl id rfl
        (List.forall_mem_singleton.2 hyC.symm)).bind fun cTerm hcTerm => ?_
      -- Both products have the size of `x`, like the gradient of the objective.
      refine (safe_lift (Linear.gives_add hgradient hcTerm)).bind fun gradient hgradient => ?_
      refine (safe_value_of_arguments
        (.jacobianTransposeTimes .inequality setting.state.current.yD) rfl id rfl
        (List.forall_mem_singleton.2 hyD.symm)).bind fun dTerm hdTerm => ?_
      refine (safe_lift (Linear.gives_add hgradient hdTerm)).bind fun gradient hgradient => ?_
      exact safe_lift (h.gives_addMultiplierGradient .x hgradient)
  | s => exact safe_lift (h.gives_addMultiplierGradient .s ((List.length_map _).trans hyD))

/-- The formula of the primal-dual scaling. -/
theorem Sound.safe_primalDualScaling (block : Block) :
    setting.Safe .current (fun scaling => scaling.length = setting.blockSize block)
      ((Quantity.primalDualScaling block).formula setting) := by
  have hmultiplier := fun side => h.length_multiplier setting.iterateAt_current ⟨block, side⟩
  refine (safe_slackValue rfl ⟨block, .lower⟩).bind fun lowerSlack hlower => ?_
  refine (safe_slackValue rfl ⟨block, .upper⟩).bind fun upperSlack hupper => ?_
  refine (safe_lift (Linear.gives_entrywiseDiv (hmultiplier .lower) hlower)).bind
    fun lowerRatio hlowerRatio => ?_
  refine (safe_lift (h.gives_scatterAdd block .lower 1 hlowerRatio List.length_replicate)).bind
    fun scaling hscaling => ?_
  refine (safe_lift (Linear.gives_entrywiseDiv (hmultiplier .upper) hupper)).bind
    fun upperRatio hupperRatio => ?_
  exact safe_lift (h.gives_scatterAdd block .upper 1 hupperRatio hscaling)

/-- The formula of the mean complementarity, which needs no slacks where
there are no bounds. -/
theorem Sound.safe_meanComplementarity {point : Point} {iterate : Iterate α}
    (hat : setting.state.iterateAt point = .ok iterate) :
    setting.Safe point (fun _ => True) ((Quantity.meanComplementarity point).formula setting) := by
  simp only [Quantity.formula, hat, Program.lift_ok_bind]
  split
  · exact safe_pure trivial
  · refine (safe_foldlM (fun total family => ?_) _ _).bind fun _ _ => safe_pure trivial
    refine (safe_slackValue hat family).bind fun slack hslack => ?_
    refine (safe_lift (Linear.gives_dot hslack (h.length_multiplier hat family))).bind
      fun _ _ => ?_
    exact safe_pure trivial

/-- Every formula whose key exists is safe, and returns a value of the
right size. -/
theorem Sound.safe_formula {k : Kind} {quantity : Quantity α k} {key : Key α}
    (hkey : setting.key quantity = .ok key) :
    setting.Safe quantity.point (setting.Fits quantity.slot) (quantity.formula setting) := by
  obtain ⟨iterate, hat⟩ := iterateAt_of_key hkey
  cases quantity with
  | slack point family => exact h.safe_slack hat family
  | objective point =>
      have hat : setting.state.iterateAt point = .ok iterate := hat
      simp only [Quantity.formula, hat, Program.lift_ok_bind]
      exact (safe_tell _).bind fun _ _ => safe_pure trivial
  | objectiveGradient =>
      refine (safe_tell _).bind fun _ _ => ?_
      exact (safe_ensure rfl .gradient List.mem_cons_self).bind fun _ hsize => safe_pure hsize
  | barrierObjective point => exact h.safe_barrierObjective hat
  | barrierGradient block =>
      cases block with
      | x =>
          refine (safe_value .objectiveGradient rfl ⟨id, rfl, rfl⟩).bind
            fun gradient hgradient => ?_
          exact h.safe_addBarrierGradient .x hgradient
      | s => exact h.safe_addBarrierGradient .s List.length_replicate
  | directionalDerivative =>
      simp only [Setting.key, Checked.bind_eq_ok] at hkey
      obtain ⟨direction, hdirection, -⟩ := hkey
      exact h.safe_directionalDerivative hdirection
  | constraint group point =>
      have hat : setting.state.iterateAt point = .ok iterate := hat
      simp only [Quantity.formula, hat, Program.lift_ok_bind]
      refine (safe_tell _).bind fun _ _ => ?_
      exact (safe_ensure hat (.constraint group) List.mem_cons_self).bind
        fun _ hsize => safe_pure hsize
  | inequalityResidual point =>
      have hat : setting.state.iterateAt point = .ok iterate := hat
      simp only [Quantity.formula, hat, Program.lift_ok_bind]
      refine (safe_value (.constraint .inequality point) hat ⟨id, rfl, rfl⟩).bind fun d hd => ?_
      exact safe_lift (Linear.gives_sub hd (h.length_primal hat .s))
  | jacobian group =>
      refine (safe_tell _).bind fun _ _ => ?_
      refine (safe_ensure rfl (.jacobian group) List.mem_cons_self).bind fun _ hrows => ?_
      refine (safe_ensure rfl (.jacobian group) (List.mem_cons_of_mem _ List.mem_cons_self)).bind
        fun _ hcolumns => ?_
      exact safe_pure ⟨hrows, hcolumns⟩
  | jacobianTimes group v =>
      -- The size of the vector was checked for the key.
      simp only [Setting.key, Setting.productKey, Checked.check_bind_eq_ok, ensureSize_eq_ok]
        at hkey
      refine (safe_value (.jacobian group) rfl ⟨id, rfl, rfl⟩).bind
        fun operator hoperator => ?_
      obtain ⟨hrows, hcolumns⟩ := hoperator
      have hproduct := Operator.gives_mulVec (hkey.1.symm.trans hcolumns.symm)
      exact safe_lift (hproduct.mono fun _ hlength => hlength.trans hrows)
  | jacobianTransposeTimes group v =>
      simp only [Setting.key, Setting.productKey, Checked.check_bind_eq_ok, ensureSize_eq_ok]
        at hkey
      refine (safe_value (.jacobian group) rfl ⟨id, rfl, rfl⟩).bind
        fun operator hoperator => ?_
      obtain ⟨hrows, hcolumns⟩ := hoperator
      have hproduct := Operator.gives_transposeMulVec (hkey.1.symm.trans hrows.symm)
      exact safe_lift (hproduct.mono fun _ hlength => hlength.trans hcolumns)
  | constraintViolation point =>
      refine (safe_value (.constraint .equality point) hat ⟨id, rfl, rfl⟩).bind fun _ _ => ?_
      exact (safe_value (.inequalityResidual point) hat ⟨id, rfl, rfl⟩).bind
        fun _ _ => safe_pure trivial
  | hessian =>
      refine (safe_tell _).bind fun _ _ => ?_
      refine (safe_ensure rfl .hessian List.mem_cons_self).bind fun _ hrows => ?_
      refine (safe_ensure rfl .hessian (List.mem_cons_of_mem _ List.mem_cons_self)).bind
        fun _ hcolumns => ?_
      exact safe_pure ⟨hrows, hcolumns⟩
  | lagrangianGradient block => exact h.safe_lagrangianGradient block
  | complementarity family =>
      refine (safe_slackValue rfl family).bind fun slack hslack => ?_
      exact safe_lift
        (Linear.gives_entrywiseMul hslack (h.length_multiplier setting.iterateAt_current family))
  | relaxedComplementarity family =>
      refine (safe_value (.complementarity family) rfl ⟨id, rfl, rfl⟩).bind
        fun products hproducts => ?_
      exact safe_pure ((List.length_map _).trans hproducts)
  | primalInfeasibility point norm =>
      refine (safe_value (.constraint .equality point) hat ⟨id, rfl, rfl⟩).bind fun _ _ => ?_
      exact (safe_value (.inequalityResidual point) hat ⟨id, rfl, rfl⟩).bind
        fun _ _ => safe_pure trivial
  | dualInfeasibility norm =>
      refine (safe_value (.lagrangianGradient .x) rfl ⟨id, rfl, rfl⟩).bind fun _ _ => ?_
      exact (safe_value (.lagrangianGradient .s) rfl ⟨id, rfl, rfl⟩).bind
        fun _ _ => safe_pure trivial
  | complementarityNorm target norm =>
      exact safe_complementarities.bind fun _ _ => safe_pure trivial
  | centralityMeasure => exact safe_complementarities.bind fun _ _ => safe_pure trivial
  | problemError => exact safe_scaledError
  | barrierError => exact safe_scaledError
  | meanError => exact safe_averagedError
  | meanBarrierError => exact safe_averagedError
  | primalStepLimit tau xStep sStep =>
      simp only [Setting.key, Checked.check_bind_eq_ok, ensureSize_eq_ok] at hkey
      -- So were the sizes of both blocks of the step.
      obtain ⟨-, hx, hs, -⟩ := hkey
      refine (h.safe_blockStepLimit .x tau hx.symm).bind fun _ _ => ?_
      exact (h.safe_blockStepLimit .s tau hs.symm).bind fun _ _ => safe_pure trivial
  | dualStepLimit tau steps =>
      simp only [Setting.key, Setting.ensureStepSizes, Checked.check_bind_eq_ok, Checked.forM_eq_ok,
        ensureSize_eq_ok] at hkey
      obtain ⟨-, hsteps, -⟩ := hkey
      refine safe_foldlM (fun limit family => ?_) _ _
      have hlimit := StepLimit.gives_fractionToBoundary tau
        (h.length_multiplier setting.iterateAt_current family)
        (hsteps family family.mem_all).symm
      exact (safe_lift hlimit).bind fun _ _ => safe_pure trivial
  | slackStepLimit tau steps =>
      simp only [Setting.key, Setting.ensureStepSizes, Checked.check_bind_eq_ok, Checked.forM_eq_ok,
        ensureSize_eq_ok] at hkey
      obtain ⟨-, hsteps, -⟩ := hkey
      refine safe_foldlM (fun limit family => ?_) _ _
      refine (safe_slackValue rfl family).bind fun slack hslack => ?_
      have hlimit := StepLimit.gives_fractionToBoundary tau hslack
        (hsteps family family.mem_all).symm
      exact (safe_lift hlimit).bind fun _ _ => safe_pure trivial
  | primalDualScaling block => exact h.safe_primalDualScaling block
  | meanComplementarity point => exact h.safe_meanComplementarity hat

end

/-! ### Values -/

section
variable {setting : Setting α}

/-- What a safe program returns when its requests are answered with values
of the right size. -/
theorem Safe.of_eval {point : Point} {bound : Nat} {β : Type} {returns : β → Prop}
    {p : Program α bound β} (h : setting.Safe point returns p)
    (hparts : ∀ {k : Kind} (part : Quantity α k), part.rank < bound → ∀ value,
      setting.value part = .ok value → setting.Fits part.slot value)
    {result : β} (heval : setting.eval p = .ok result) : returns result := by
  induction p with
  | done value =>
      cases heval
      exact h
  | fail error => cases heval
  | report event rest ih => exact ih h heval
  | ask part lower rest ih =>
      -- The answer is a value of the part, so its size is known.
      obtain ⟨value, hvalue, hrest⟩ := Checked.bind_eq_ok.1 heval
      exact ih value (h.2.2 value (hparts part lower value hvalue)) hrest

/-- A value has the size of the results of its cache. -/
theorem Sound.fits_value (h : setting.Sound) {k : Kind} {quantity : Quantity α k}
    {value : Carrier α k} (hvalue : setting.value quantity = .ok value) :
    setting.Fits quantity.slot value := by
  -- The parts of a formula have a smaller rank.
  induction hrank : quantity.rank using Nat.strongRecOn generalizing k quantity value with
  | ind rank ih =>
      rw [value_eq] at hvalue
      obtain ⟨key, hkey, heval⟩ := Checked.bind_eq_ok.1 hvalue
      exact (h.safe_formula hkey).of_eval
        (fun part lower _ hpart => ih part.rank (hrank ▸ lower) hpart rfl) heval

end

end Setting

end InteriorPoint
