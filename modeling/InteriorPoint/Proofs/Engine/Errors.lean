import InteriorPoint.Proofs.Engine.Answers
import InteriorPoint.Proofs.Quantity.Residuals

/-!
# `InteriorPoint.Proofs.Engine.Errors`: the errors bound one another

An engine answers four errors for the current point, two for the problem
itself and two for the barrier problem. They measure the same eight
vectors in two ways, by the largest scaled entry and by the mean absolute
value (`Session.exists_errorAnswers`). In exact arithmetic each measure
bounds the other, and the largest scaled entry hardly changes from the
problem to the barrier problem (`Session.errors_equivalent`).
-/

set_option autoImplicit false

namespace InteriorPoint

/-! ### The answers -/

section
variable {α : Type} [Scalar α]

/-- The errors that an engine answers, and the vectors that they
measure. -/
structure Engine.ErrorAnswers (engine : Engine α) where
  problem : α
  barrier : α
  mean : α
  meanBarrier : α
  vectors : ResidualVectors α
  answers_problem : engine.Answers (.quantity .problemError) problem
  answers_barrier : engine.Answers (.quantity .barrierError) barrier
  answers_mean : engine.Answers (.quantity .meanError) mean
  answers_meanBarrier : engine.Answers (.quantity .meanBarrierError) meanBarrier
  answers_equality : engine.Answers (.quantity (.constraint .equality .current)) vectors.equality
  answers_inequality :
    engine.Answers (.quantity (.inequalityResidual .current)) vectors.inequality
  answers_lagrangian : ∀ block,
    engine.Answers (.quantity (.lagrangianGradient block)) (vectors.lagrangian block)
  answers_complementarity : ∀ family,
    engine.Answers (.quantity (.complementarity family)) (vectors.complementarity.get family)

/-- The entries of all eight vectors. -/
def Engine.ErrorAnswers.residuals {engine : Engine α} (answers : engine.ErrorAnswers) :
    Residuals α :=
  answers.vectors.residuals

/-- The errors are the measures of the residuals. -/
structure Engine.ErrorAnswers.Measure {engine : Engine α} (answers : engine.ErrorAnswers) :
    Prop where
  problem : answers.problem = (answers.residuals.relative 0).scaled engine.setting.errorScaling
  barrier : answers.barrier
    = (answers.residuals.relative engine.setting.mu).scaled engine.setting.errorScaling
  mean : answers.mean = (answers.residuals.relative 0).mean
  meanBarrier : answers.meanBarrier = (answers.residuals.relative engine.setting.mu).mean

/-- An engine that answers one error answers all four, and the vectors. -/
theorem Session.exists_errorAnswers [LawfulComparison α] [LawfulZero α] {pool : Pool α}
    {engine : Engine α} (h : Session pool engine) {error : Quantity α .scalar}
    (herror : error ∈ Quantity.errors) {supply : Supply} {value : α}
    (hanswer : (engine.answer (.quantity error) supply).1.result.map Shared.value = .ok value) :
    ∃ answers : engine.ErrorAnswers, answers.Measure := by
  have hsound := h.reachable.wellFormed.sound
  have hrequest : (Request.quantity error).slot.Rigid α ∧ error.vectors = [] := by
    simp only [Quantity.errors, List.mem_cons, List.not_mem_nil, or_false] at herror
    rcases herror with rfl | rfl | rfl | rfl <;> exact ⟨.of_not_signed id, rfl⟩
  have hvalue := h.value_of_answer hrequest.1 rfl
    (Request.known_quantity hrequest.2 pool) hanswer
  -- One error that was answered gives the eight vectors, and these give the other errors.
  obtain ⟨v, hv⟩ := Setting.exists_hasResiduals_of_error herror hvalue
  exact ⟨{
      problem := _
      barrier := _
      mean := _
      meanBarrier := _
      vectors := v
      answers_problem := h.answers_quantity (.of_not_signed id) rfl hv.problemError
      answers_barrier := h.answers_quantity (.of_not_signed id) rfl hv.barrierError
      answers_mean := h.answers_quantity (.of_not_signed id) rfl (hv.meanError hsound)
      answers_meanBarrier := h.answers_quantity (.of_not_signed id) rfl (hv.meanBarrierError hsound)
      answers_equality := h.answers_quantity (.of_not_signed id) rfl hv.equality
      answers_inequality := h.answers_quantity (.of_not_signed id) rfl hv.inequality
      answers_lagrangian := fun block =>
        h.answers_quantity (.of_not_signed id) rfl (hv.lagrangian block)
      answers_complementarity := fun family =>
        h.answers_quantity (.of_not_signed id) rfl (hv.complementarity family) },
    ⟨rfl, rfl, rfl, rfl⟩⟩

end

/-! ### Exact arithmetic -/

variable {K : Type} [Field K] [LinearOrder K] [ExactFunctions K] [IsStrictOrderedRing K]

/-- Both divisors of the optimality error are at least one. An engine that
answers one of the errors answers all four, and with `N` the number of
entries of the eight vectors, or one if there are none, the largest scaled
entry is at most `N` times the mean, and the mean at most the larger
divisor times the largest scaled entry. The errors of the problem and of
the barrier problem differ by at most the scaled barrier parameter, and
the error of the problem is zero exactly if every entry is. -/
theorem Session.errors_equivalent {pool : Pool K} {engine : Engine K} (h : Session pool engine) :
    let scaling := engine.setting.errorScaling
    1 ≤ scaling.dual ∧ 1 ≤ scaling.complementarity
      ∧ ∀ error ∈ Quantity.errors, ∀ (supply : Supply) (value : K),
        (engine.answer (.quantity error) supply).1.result.map Shared.value = .ok value →
          ∃ answers : engine.ErrorAnswers,
            let count : K := answers.residuals.count
            let divisor := max scaling.dual scaling.complementarity
            (answers.problem ≤ count * answers.mean
              ∧ answers.mean ≤ divisor * answers.problem)
            ∧ (answers.barrier ≤ count * answers.meanBarrier
              ∧ answers.meanBarrier ≤ divisor * answers.barrier)
            ∧ |answers.barrier - answers.problem|
              ≤ engine.setting.state.mu / scaling.complementarity
            ∧ (answers.problem = 0 ↔ ∀ entry ∈ answers.residuals.entries, entry = 0) := by
  intro scaling
  obtain ⟨hdual, hcomplementarity⟩ :=
    engine.setting.state.current.one_le_errorScaling h.one_le_multiplierThreshold
  refine ⟨hdual, hcomplementarity, fun error herror supply value hanswer => ?_⟩
  obtain ⟨answers, hproblem, hbarrier, hmean, hmeanBarrier⟩ :=
    h.exists_errorAnswers herror hanswer
  -- The errors of the problem measure the residuals themselves.
  rw [Residuals.relative_zero] at hproblem hmean
  refine ⟨answers, ⟨?_, ?_⟩, ⟨?_, ?_⟩, ?_, ?_⟩
  · rw [hproblem, hmean]
    exact Residuals.scaled_le_count_mul_mean _ hdual hcomplementarity
  · rw [hproblem, hmean]
    exact Residuals.mean_le_mul_scaled _ hdual hcomplementarity
  · -- The residuals relative to `mu` are as many.
    rw [hbarrier, hmeanBarrier, ← answers.residuals.count_relative engine.setting.mu]
    exact Residuals.scaled_le_count_mul_mean _ hdual hcomplementarity
  · rw [hbarrier, hmeanBarrier]
    exact Residuals.mean_le_mul_scaled _ hdual hcomplementarity
  · rw [hproblem, hbarrier]
    exact Residuals.abs_scaled_relative_sub_le _ hcomplementarity h.mu_nonneg
  · rw [hproblem]
    exact Residuals.scaled_eq_zero_iff _ hdual hcomplementarity

/-- The corner, where neither divisor is one and the error is not zero. -/
theorem Session.errors_equivalent_corner :
    Corner.engine.setting.errorScaling = ⟨4 / 3, 5 / 4⟩
      ∧ ∃ answers : Corner.engine.ErrorAnswers,
        answers.problem = 8 / 5
          ∧ (answers.problem ≤ answers.residuals.count * answers.mean
            ∧ answers.mean ≤ max (4 / 3) (5 / 4) * answers.problem)
          ∧ |answers.barrier - answers.problem| ≤ 1 / (5 / 4) := by
  have hscaling : Corner.engine.setting.errorScaling = ⟨4 / 3, 5 / 4⟩ := by decide +kernel
  have hanswer : (Corner.engine.answer (.quantity .problemError) ⟨35⟩).1.result.map
      Shared.value = .ok (8 / 5 : ℚ) := by decide +kernel
  obtain ⟨-, -, hequivalent⟩ := Session.errors_equivalent Corner.session
  obtain ⟨answers, hbounds, -, hdistance, -⟩ :=
    hequivalent .problemError List.mem_cons_self ⟨35⟩ _ hanswer
  -- The first of the answers is the one that was given.
  have hproblem : answers.problem = 8 / 5 :=
    Except.ok.inj ((answers.answers_problem.now ⟨35⟩).symm.trans hanswer)
  rw [hscaling] at hbounds hdistance
  exact ⟨hscaling, answers, hproblem, hbounds, hdistance⟩

end InteriorPoint
