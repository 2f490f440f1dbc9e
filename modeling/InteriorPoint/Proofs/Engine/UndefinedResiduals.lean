import InteriorPoint.Proofs.Engine.Errors

/-!
# `InteriorPoint.Proofs.Engine.UndefinedResiduals`: residuals that no error reports

A function of the problem may return values that are not numbers, and then
residuals are undefined. The mean errors keep them: a sum with an
undefined term is undefined. The largest scaled residual does not. The
maximum of a number and an undefined value is the number, so the two
errors that are made of maxima are those of the entries that are numbers,
and they are numbers themselves (`Session.errors_isNumber`).

Such an error says nothing of the rest. `HalfLine.undefinedSlope` is a
problem whose gradient is undefined, and whose error is zero
(`Session.errors_isNumber_undefinedSlope`).
-/

set_option autoImplicit false

namespace InteriorPoint

/-- An engine that answers the error of the problem or of the barrier
problem answers both, and both are numbers, whatever the residuals are.
They are the errors of those entries that are numbers. -/
theorem Session.errors_isNumber {α : Type} [Scalar α] [LawfulComparison α] [LawfulZero α]
    {pool : Pool α} {engine : Engine α} (h : Session pool engine) {error : Quantity α .scalar}
    (herror : error = .problemError ∨ error = .barrierError) {supply : Supply} {value : α}
    (hanswer : (engine.answer (.quantity error) supply).1.result.map Shared.value = .ok value) :
    ∃ answers : engine.ErrorAnswers,
      (Scalar.IsNumber answers.problem ∧ Scalar.IsNumber answers.barrier)
        ∧ answers.problem
          = (answers.residuals.relative 0).defined.scaled engine.setting.errorScaling
        ∧ answers.barrier
          = (answers.residuals.relative engine.setting.mu).defined.scaled
            engine.setting.errorScaling := by
  have hmem : error ∈ Quantity.errors := by
    rcases herror with rfl | rfl
    · exact List.mem_cons_self
    · exact List.mem_cons_of_mem _ List.mem_cons_self
  obtain ⟨answers, hproblem, hbarrier, -⟩ := h.exists_errorAnswers hmem hanswer
  refine ⟨answers, ?_, ?_, ?_⟩
  · -- The maxima pass over undefined entries, so what they come to is a number.
    rw [hproblem, hbarrier]
    exact ⟨Residuals.isNumber_scaled _ _, Residuals.isNumber_scaled _ _⟩
  · rw [hproblem, Residuals.scaled_defined]
  · rw [hbarrier, Residuals.scaled_defined]

namespace HalfLine

/-- The half line with a gradient that is not a number. -/
def undefinedSlope : Problem Binary64 :=
  { problem with
    callbacks := { problem.callbacks with
      gradient := fun x => x.map fun _ => ⟨0x7FF8000000000000⟩ } }

/-- The engine for this problem, in the same state. -/
def undefinedEngine : Engine Binary64 :=
  { engine with setting := { engine.setting with problem := undefinedSlope } }

/-- It begins a session as the other one does. -/
theorem undefinedSession : Session (pool.learn state ⟨33⟩) undefinedEngine := by
  have hnew : Engine.new undefinedSlope state options = .ok undefinedEngine := rfl
  exact .new arises hnew

end HalfLine

/-- The gradient of the Lagrangian is undefined and the mean error with
it, but the error of the problem is zero and that of the barrier problem
is one. -/
theorem Session.errors_isNumber_undefinedSlope :
    ∃ answers : HalfLine.undefinedEngine.ErrorAnswers,
      answers.vectors.lagrangian .x = [⟨0x7FF8000000000000⟩]
        ∧ ¬ Scalar.IsNumber answers.mean
        ∧ (answers.problem = 0 ∧ answers.barrier = 1)
        ∧ Scalar.IsNumber answers.problem ∧ Scalar.IsNumber answers.barrier := by
  have hanswer : (HalfLine.undefinedEngine.answer (.quantity .problemError)
      ⟨33⟩).1.result.map Shared.value = .ok (0 : Binary64) := by decide +kernel
  have hbarrier : (HalfLine.undefinedEngine.answer (.quantity .barrierError)
      ⟨33⟩).1.result.map Shared.value = .ok (1 : Binary64) := by decide +kernel
  have hlagrangian : (HalfLine.undefinedEngine.answer (.quantity (.lagrangianGradient .x))
      ⟨33⟩).1.result.map Shared.value = .ok [⟨0x7FF8000000000000⟩] := by decide +kernel
  have hmean : (HalfLine.undefinedEngine.answer (.quantity .meanError)
      ⟨33⟩).1.result.map Shared.value = .ok (⟨0x7FF8000000000000⟩ : Binary64) := by decide +kernel
  obtain ⟨answers, hnumbers, -⟩ :=
    Session.errors_isNumber HalfLine.undefinedSession (Or.inl rfl) hanswer
  -- What an answer is can be seen by asking now.
  have hundefined : answers.mean = ⟨0x7FF8000000000000⟩ :=
    Except.ok.inj ((answers.answers_mean.now ⟨33⟩).symm.trans hmean)
  refine ⟨answers, ?_, ?_, ⟨?_, ?_⟩, hnumbers⟩
  · exact Except.ok.inj (((answers.answers_lagrangian .x).now ⟨33⟩).symm.trans hlagrangian)
  · rw [hundefined]
    decide +kernel
  · exact Except.ok.inj ((answers.answers_problem.now ⟨33⟩).symm.trans hanswer)
  · exact Except.ok.inj ((answers.answers_barrier.now ⟨33⟩).symm.trans hbarrier)

end InteriorPoint
