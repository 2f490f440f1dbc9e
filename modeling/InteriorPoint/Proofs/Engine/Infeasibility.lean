import InteriorPoint.Proofs.Engine.BarrierGradient
import InteriorPoint.Proofs.Engine.Errors
import InteriorPoint.Proofs.Engine.Refusals
import InteriorPoint.Proofs.Norm.Laws
import InteriorPoint.Proofs.Scalar.Real

/-!
# `InteriorPoint.Proofs.Engine.Infeasibility`: infeasibility in three norms

An infeasibility can be asked for in each norm, and the answers are
stored apart from each other. They belong together all the same. If one
is refused, all are, and a function of the problem is the reason.
Otherwise they are the norms of one list of vectors, so that they are
ordered and everything in `Norm.Laws` holds of them
(`Session.infeasibility_ordered`).
-/

set_option autoImplicit false

namespace InteriorPoint

section
variable {α : Type}

/-- What is measured at the current point in a norm of choice. -/
def Quantity.infeasibilities : List (Norm → Quantity α .scalar) :=
  [.primalInfeasibility .current, .dualInfeasibility]

/-- There are two of them. -/
theorem Quantity.mem_infeasibilities {measure : Norm → Quantity α .scalar} :
    measure ∈ Quantity.infeasibilities
      ↔ measure = .primalInfeasibility .current ∨ measure = .dualInfeasibility := by
  simp [infeasibilities]

variable [Scalar α]

namespace Setting

/-- Functions that return what has the right shape are never the reason
for a refusal. -/
theorem WellShaped.not_misshaped {setting : Setting α} (hshape : setting.WellShaped)
    (hvalid : setting.state.Valid) {point : Point} {error : Error α} :
    ¬ setting.Misshaped point error := by
  rintro ⟨hat, hresult, hwrong⟩
  rename_i iterate callback context expected found
  have hfits := hvalid.iterateAt hat
  have hx : iterate.x.entries.length = setting.dims.x := (hfits .x).symm
  -- One case for each function, with one shape or two to compare.
  cases callback with
  | objective => exact absurd hresult List.not_mem_nil
  | gradient =>
      cases List.mem_singleton.1 hresult
      exact hwrong (hshape.gradient _ hx).symm
  | constraint group =>
      cases List.mem_singleton.1 hresult
      exact hwrong (hshape.constraint group _ hx).symm
  | jacobian group =>
      obtain ⟨hrows, hcolumns⟩ := hshape.jacobian group _ hx
      rcases List.mem_cons.1 hresult with heq | hmem
      · cases heq
        exact hwrong hrows.symm
      · cases List.mem_singleton.1 hmem
        exact hwrong hcolumns.symm
  | hessian =>
      obtain ⟨hrows, hcolumns⟩ := hshape.hessian _ 1 iterate.yC.entries iterate.yD.entries hx
        (hfits .yC).symm (hfits .yD).symm
      rcases List.mem_cons.1 hresult with heq | hmem
      · cases heq
        exact hwrong hrows.symm
      · cases List.mem_singleton.1 hmem
        exact hwrong hcolumns.symm

/-- The vectors that an infeasibility measures do not depend on the
norm. -/
theorem exists_measured {setting : Setting α} {measure : Norm → Quantity α .scalar}
    (hmeasure : measure ∈ Quantity.infeasibilities) {norm : Norm} {value : α}
    (hvalue : setting.value (measure norm) = .ok value) :
    ∃ vectors : List (List α), ∀ norm : Norm,
      setting.value (measure norm) = .ok (norm.ofVectors vectors) := by
  rcases Quantity.mem_infeasibilities.1 hmeasure with rfl | rfl
  · obtain ⟨c, hc, residual, hresidual, -⟩ := value_primalInfeasibility_eq_ok.1 hvalue
    exact ⟨[c, residual], fun norm =>
      value_primalInfeasibility_eq_ok.2 ⟨c, hc, residual, hresidual, rfl⟩⟩
  · obtain ⟨xGradient, hx, sGradient, hs, -⟩ := value_dualInfeasibility_eq_ok.1 hvalue
    exact ⟨[xGradient, sGradient], fun norm =>
      value_dualInfeasibility_eq_ok.2 ⟨xGradient, hx, sGradient, hs, rfl⟩⟩

end Setting

/-- The engine answers a measure in every norm, and the answers are the
norms of one list of vectors. -/
def Engine.Measures (engine : Engine α) (measure : Norm → Quantity α .scalar)
    (vectors : List (List α)) : Prop :=
  ∀ norm : Norm, engine.Answers (.quantity (measure norm)) (norm.ofVectors vectors)

/-- An infeasibility is refused only because of a function of the
problem. -/
theorem Session.misshaped_of_answer {pool : Pool α} {engine : Engine α} (h : Session pool engine)
    {measure : Norm → Quantity α .scalar} (hmeasure : measure ∈ Quantity.infeasibilities)
    {norm : Norm} {supply : Supply} {error : Error α}
    (hanswer : (engine.answer (.quantity (measure norm)) supply).1.result = .error error) :
    engine.setting.Misshaped .current error := by
  have hrefuses := (h.reachable.refuses_of_answer hanswer).1
  rcases Quantity.mem_infeasibilities.1 hmeasure with rfl | rfl
  -- An infeasibility needs no trial point, no direction, no fraction and no vector.
  all_goals
    cases hrefuses with
    | trial hpoint => cases hpoint
    | direction hneeds => exact hneeds.elim
    | fraction htau => cases htau
    | argument hargument => exact absurd hargument List.not_mem_nil
    | result hresult => exact hresult

variable [LawfulComparison α] [LawfulZero α]

/-- Either an infeasibility is answered in all norms or it is refused in
all of them. -/
theorem Session.measures_or_refuses {pool : Pool α} {engine : Engine α} (h : Session pool engine)
    {measure : Norm → Quantity α .scalar} (hmeasure : measure ∈ Quantity.infeasibilities) :
    (∃ vectors, engine.Measures measure vectors)
      ∨ ∀ norm supply, ∃ error,
          (engine.answer (.quantity (measure norm)) supply).1.result = .error error
          ∧ engine.setting.Misshaped .current error := by
  have hknown : ∀ norm pool, (Request.quantity (measure norm)).Known pool := by
    rcases Quantity.mem_infeasibilities.1 hmeasure with rfl | rfl
    · exact fun norm => Request.known_quantity rfl
    · exact fun norm => Request.known_quantity rfl
  have hrigid : ∀ norm, (Request.quantity (measure norm)).slot.Rigid α := by
    rcases Quantity.mem_infeasibilities.1 hmeasure with rfl | rfl
    · exact fun norm => .of_not_signed id
    · exact fun norm => .of_not_signed id
  by_cases hvalue : ∃ norm value, engine.setting.value (measure norm) = .ok value
  · obtain ⟨norm, value, hvalue⟩ := hvalue
    obtain ⟨vectors, hvectors⟩ := Setting.exists_measured hmeasure hvalue
    exact Or.inl ⟨vectors, fun norm =>
      h.answers_of_value (hrigid norm) rfl (hknown norm) (hvectors norm)⟩
  · refine Or.inr fun norm supply => ?_
    rcases hresult : (engine.answer (.quantity (measure norm)) supply).1.result with error | kept
    · exact ⟨error, rfl, h.misshaped_of_answer hmeasure hresult⟩
    · -- An answer would be the value.
      have hanswer := h.value_of_answer (hrigid norm) rfl (hknown norm pool) (congrArg _ hresult)
      exact absurd ⟨norm, _, hanswer⟩ hvalue

end

section
variable {K : Type} [Field K] [LinearOrder K] [ExactFunctions K]

/-- In exact arithmetic with roots the three norms of any list of vectors
are norms of the stacked vector, and they are comparable. In every session
each of the two infeasibilities is then answered in the three norms by
ordered numbers, or refused in all of them because a function of the
problem has returned something of the wrong size. The latter does not
happen if the functions are well-shaped. -/
theorem Session.infeasibility_ordered [IsStrictOrderedRing K] (hroots : HasRoots K) :
    (∀ vectors : List (List K), Norm.Laws vectors)
      ∧ ∀ {pool : Pool K} {engine : Engine K}, Session pool engine →
          ∀ measure ∈ Quantity.infeasibilities,
            ((∃ vectors : List (List K), engine.Measures measure vectors
                ∧ Norm.max.ofVectors vectors ≤ Norm.two.ofVectors vectors
                ∧ Norm.two.ofVectors vectors ≤ Norm.one.ofVectors vectors)
              ∨ ∀ norm supply, ∃ error,
                  (engine.answer (.quantity (measure norm)) supply).1.result = .error error
                  ∧ engine.setting.Misshaped .current error)
            ∧ (engine.setting.WellShaped → ∃ vectors, engine.Measures measure vectors) := by
  refine ⟨Norm.laws hroots, fun {pool engine} h measure hmeasure => ?_⟩
  have hcases := h.measures_or_refuses hmeasure
  constructor
  · refine hcases.imp_left fun ⟨vectors, hvectors⟩ => ⟨vectors, hvectors, ?_⟩
    have hlaws := Norm.laws hroots vectors
    exact ⟨hlaws.max_le_two, hlaws.two_le_one⟩
  · -- Well-shaped functions are no reason to refuse, so the first alternative holds.
    intro hshape
    refine hcases.resolve_right fun hrefused => ?_
    obtain ⟨error, -, hmisshaped⟩ := hrefused .max {}
    exact hshape.not_misshaped h.reachable.wellFormed.valid hmisshaped

end

/-- Real numbers have roots. -/
theorem hasRoots_real : HasRoots ℝ :=
  fun a ha => ⟨Real.sqrt_nonneg a, Real.sq_sqrt ha⟩

namespace MixedBounds

/-- The problem with an inequality that its functions know of. -/
noncomputable def constrained : Problem ℝ :=
  { problem with
    callbacks := { problem.callbacks with
      constraint := fun
        | .equality, _ => []
        | .inequality, x => [x.headD 0]
      jacobian := fun
        | .equality, _ => .dense (.zero 0 2)
        | .inequality, _ => .dense (.ofFn 1 2 fun _ _ => 1)
      hessian := fun _ _ _ _ => .zero 2 2 } }

/-- The engine for this problem, in the same state. -/
noncomputable def constrainedEngine : Engine ℝ :=
  { engine with setting := { engine.setting with problem := constrained } }

/-- It begins a session as the other one does. -/
theorem constrainedSession : Session (pool.learn state ⟨35⟩) constrainedEngine :=
  .new arises (Engine.new_eq_ok.2 ⟨validate_options, rfl, rfl⟩)

/-- All functions return what has the right size. -/
theorem wellShaped : constrainedEngine.setting.WellShaped where
  gradient _ _ := rfl
  constraint group _ _ := by cases group <;> rfl
  jacobian group _ _ := by cases group <;> exact ⟨rfl, rfl⟩
  hessian _ _ _ _ _ _ _ := ⟨rfl, rfl⟩

end MixedBounds

/-- Real numbers have roots, and the dual infeasibility of a small problem
is answered in all norms. -/
theorem Session.infeasibility_ordered_real :
    HasRoots ℝ ∧ Norm.Laws [[(3 : ℝ), -4], [-12]]
      ∧ Session (MixedBounds.pool.learn MixedBounds.state ⟨35⟩) MixedBounds.constrainedEngine
      ∧ MixedBounds.constrainedEngine.setting.WellShaped
      ∧ ∃ vectors, MixedBounds.constrainedEngine.Measures .dualInfeasibility vectors := by
  obtain ⟨hlaws, hmeasures⟩ := Session.infeasibility_ordered hasRoots_real
  have hmem : Quantity.dualInfeasibility ∈ Quantity.infeasibilities (α := ℝ) :=
    Quantity.mem_infeasibilities.2 (Or.inr rfl)
  exact ⟨hasRoots_real, hlaws _, MixedBounds.constrainedSession, MixedBounds.wellShaped,
    (hmeasures MixedBounds.constrainedSession _ hmem).2 MixedBounds.wellShaped⟩

end InteriorPoint
