import InteriorPoint.Proofs.Quantity.Determined
import InteriorPoint.Proofs.Quantity.Parts
import InteriorPoint.Proofs.State

/-!
# `InteriorPoint.Proofs.Quantity.Requests`: requests of formulas and calls of functions

A formula passes no vector on to another quantity except the multipliers
of the current point (`formula_passes`). So the vectors that come up while
a request is answered are its own and those of the state.

A quantity that stands for a function of the problem asks for nothing.
Its key lists the inputs of the function at the point of the quantity
(`key_of_callback`), and if the function returns what has the right
shape, its formula is a single call (`formula_of_callback`). No other
formula calls a function (`formula_silent`).
-/

set_option autoImplicit false

namespace InteriorPoint

variable {α : Type}

/-- The point that a quantity is evaluated at. -/
def Quantity.point : {k : Kind} → Quantity α k → Point
  | _, slack p _ | _, objective p | _, barrierObjective p | _, constraint _ p
  | _, inequalityResidual p | _, constraintViolation p | _, primalInfeasibility p _
  | _, meanComplementarity p => p
  | _, _ => .current

/-- The identities of the inputs that a function of the problem has at a
point. -/
def Callback.inputs : Callback → Iterate α → List Tag
  | .hessian, iterate => [iterate.x.tag, iterate.yC.tag, iterate.yD.tag]
  | _, iterate => [iterate.x.tag]

variable [Scalar α]

namespace Setting

/-- The vectors among the arguments of a quantity are multipliers of the
current point. -/
def Passes (setting : Setting α) {k : Kind} (part : Quantity α k) : Prop :=
  ∀ v ∈ part.vectors, v = setting.state.current.yC ∨ v = setting.state.current.yD

/-- The functions of the problem return what has the shape that the sizes
prescribe. -/
structure WellShaped (setting : Setting α) : Prop where
  gradient : ∀ x : List α, x.length = setting.dims.x →
    (setting.problem.callbacks.gradient x).length = setting.dims.x
  constraint : ∀ group (x : List α), x.length = setting.dims.x →
    (setting.problem.callbacks.constraint group x).length = setting.groupSize group
  jacobian : ∀ group (x : List α), x.length = setting.dims.x →
    (setting.problem.callbacks.jacobian group x).rowCount = setting.groupSize group
      ∧ (setting.problem.callbacks.jacobian group x).columns = setting.dims.x
  hessian : ∀ (x : List α) weight (yC yD : List α), x.length = setting.dims.x →
    yC.length = setting.dims.c → yD.length = setting.dims.s →
    (setting.problem.callbacks.hessian x weight yC yD).rowCount = setting.dims.x
      ∧ (setting.problem.callbacks.hessian x weight yC yD).columns = setting.dims.x

end Setting

namespace Quantity

open Program (ensure)

/-- The vectors among the arguments of a part are multipliers of the
current point. -/
theorem passes_of_mem_parts (setting : Setting α) {k : Kind} (quantity : Quantity α k) :
    ∀ part ∈ quantity.parts setting, setting.Passes part.2 := by
  cases quantity
  case barrierGradient block => cases block <;> simp [parts, Setting.Passes, vectors]
  case lagrangianGradient block => cases block <;> simp [parts, Setting.Passes, vectors]
  case meanComplementarity point =>
    by_cases hcount : setting.dims.boundCount = 0 <;>
      simp [parts, hcount, Setting.Passes, vectors]
  all_goals simp [parts, errorParts, Setting.Passes, vectors]

/-- A formula passes on no other vectors, on any path. -/
theorem formula_passes (setting : Setting α) {k : Kind} (quantity : Quantity α k) :
    (quantity.formula setting).Within setting.Passes (setting.Reports quantity) fun _ => True :=
  (quantity.formula_within setting).mono
    (fun part hpart => passes_of_mem_parts setting quantity ⟨_, part⟩ hpart) (fun _ h => h)
    fun _ h => h

/-! ### Functions of the problem -/

variable {setting : Setting α} {k : Kind} {quantity : Quantity α k} {callback : Callback}

/-- The key of such a quantity lists the inputs of the function. -/
theorem key_of_callback (h : quantity.callback? = some callback) :
    setting.key quantity
      = setting.state.iterateAt quantity.point >>= fun iterate =>
          pure (Key.ofTags (callback.inputs iterate)) := by
  cases quantity <;> cases h <;> rfl

/-- Any other formula calls no function itself. -/
theorem formula_silent (h : quantity.callback? = none) :
    (quantity.formula setting).Within setting.Passes
      (fun event => ∀ callback inputs, event ≠ .evaluated callback inputs) fun _ => True := by
  refine (quantity.formula_passes setting).mono (fun _ hpasses => hpasses) ?_ fun _ _ => trivial
  rintro _ hreports callback inputs rfl
  rw [(Setting.reports_evaluated_iff.1 hreports).1] at h
  cases h

/-- Where all results have the right shape, a function is called once and
nothing else happens. -/
theorem formula_of_callback (hshape : setting.WellShaped) (hvalid : setting.state.Valid)
    (h : quantity.callback? = some callback) {key : Key α} (hkey : setting.key quantity = .ok key) :
    ∃ tags value, key = .ofTags tags
      ∧ quantity.formula setting = .report (.evaluated callback tags) (.done value) := by
  rw [key_of_callback h, Checked.bind_eq_ok] at hkey
  obtain ⟨iterate, hat, hinputs⟩ := hkey
  rw [Checked.pure_eq_ok] at hinputs
  subst hinputs
  refine ⟨callback.inputs iterate, ?_⟩
  have hfits := hvalid.iterateAt hat
  -- What the functions are applied to has the sizes of the problem.
  have hx : iterate.x.entries.length = setting.dims.x := (hfits .x).symm
  have hyC : iterate.yC.entries.length = setting.dims.c := (hfits .yC).symm
  have hyD : iterate.yD.entries.length = setting.dims.s := (hfits .yD).symm
  -- So the result has the expected shape, and its check is passed.
  cases quantity <;> cases h <;> simp only [formula, ensure]
  case objective point =>
    rw [show setting.state.iterateAt point = .ok iterate from hat]
    exact ⟨_, trivial, rfl⟩
  case objectiveGradient =>
    cases hat
    rw [ensureSize_eq_ok.2 (hshape.gradient _ hx).symm]
    exact ⟨_, trivial, rfl⟩
  case constraint group point =>
    rw [show setting.state.iterateAt point = .ok iterate from hat]
    rw [Program.lift_ok_bind, ensureSize_eq_ok.2 (hshape.constraint group _ hx).symm]
    exact ⟨_, trivial, rfl⟩
  case jacobian group =>
    cases hat
    obtain ⟨hrows, hcolumns⟩ := hshape.jacobian group _ hx
    rw [ensureSize_eq_ok.2 hrows.symm, ensureSize_eq_ok.2 hcolumns.symm]
    exact ⟨_, trivial, rfl⟩
  case hessian =>
    cases hat
    obtain ⟨hrows, hcolumns⟩ := hshape.hessian _ 1 _ _ hx hyC hyD
    rw [ensureSize_eq_ok.2 hrows.symm, ensureSize_eq_ok.2 hcolumns.symm]
    exact ⟨_, trivial, rfl⟩

end Quantity

end InteriorPoint
