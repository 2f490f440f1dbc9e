import InteriorPoint.Proofs.Engine.Answers
import InteriorPoint.Proofs.Quantity.Gradients

/-!
# `InteriorPoint.Proofs.Engine.Gradients`: two gradients that agree

The gradient of the barrier objective and that of the Lagrangian are
computed, stored and answered independently of one another. In exact
arithmetic they agree through the relaxed complementarity: the first is
the second without the constraint terms, with the relaxed complementarity
divided by the slacks, and with the damping terms
(`Session.barrierGradient_eq`).

The slacks are those the engine answers. They may have been corrected.
What makes the identity hold then is that both gradients and the
complementarity use the same slack, which comes out of `Setting.Sound`
once and for all, and that a corrected slack is not zero.
-/

set_option autoImplicit false

namespace InteriorPoint

/-- What an engine answers about the gradients of a block. -/
structure Engine.GradientAnswers {α : Type} [Scalar α] (engine : Engine α) (block : Block) where
  barrier : List α
  lagrangian : List α
  slack : Side → List α
  relaxed : Side → List α
  answers_barrier : engine.Answers (.quantity (.barrierGradient block)) barrier
  answers_lagrangian : engine.Answers (.quantity (.lagrangianGradient block)) lagrangian
  answers_slack : ∀ side, engine.Answers (.quantity (.slack .current ⟨block, side⟩)) (slack side)
  answers_relaxed : ∀ side,
    engine.Answers (.quantity (.relaxedComplementarity ⟨block, side⟩)) (relaxed side)

variable {K : Type} [Field K] [LinearOrder K] [ExactFunctions K]

/-- Zeros embed as zeros. -/
theorem Setting.signedEmbed_eq_zero (setting : Setting K) (block : Block) {v : Side → List K}
    (h : ∀ side, ∀ entry ∈ v side, entry = 0) (i : Nat) : setting.signedEmbed block v i = 0 := by
  have hzero : ∀ side, (v side).map (· * 0) = v side := by
    intro side
    refine List.ext_getElem (List.length_map _) fun n _ hn => ?_
    rw [List.getElem_map, mul_zero, h side _ (List.getElem_mem hn)]
  have hembed : ∀ side (selection : Selection), selection.embed (v side) i = 0 := by
    intro side selection
    rw [← hzero side, Selection.embed_map_mul, zero_mul]
  rw [signedEmbed, hembed, hembed, sub_zero]

/-- The gradient of the barrier objective is that of the Lagrangian less
the constraint terms, plus `P_L (relaxed / slack) - P_U (relaxed / slack)`
and the damping terms, in every session in which the gradient of the
Lagrangian is answered. All the other answers exist then.

Without damping, and with every pair on the central path, the gradient of
the Lagrangian is that of the barrier objective plus the constraint
terms. -/
theorem Session.barrierGradient_eq [IsStrictOrderedRing K] {pool : Pool K} {engine : Engine K}
    (h : Session pool engine) {block : Block} {gradient : List K} {supply : Supply}
    (hanswer : (engine.answer (.quantity (.lagrangianGradient block)) supply).1.result.map
      Shared.value = .ok gradient) :
    ∃ answers : engine.GradientAnswers block,
      answers.lagrangian = gradient
        ∧ answers.barrier.length = engine.setting.blockSize block
        ∧ answers.lagrangian.length = engine.setting.blockSize block
        ∧ (∀ i, i < engine.setting.blockSize block → answers.barrier.getD i 0
          = answers.lagrangian.getD i 0 - engine.setting.constraintTerm block i
            + engine.setting.signedEmbed block
              (fun side => List.zipWith (· / ·) (answers.relaxed side) (answers.slack side)) i
            + engine.setting.options.dampingWeight * engine.setting.state.mu
              * engine.setting.signedEmbed block
                (fun side => engine.setting.damping.get ⟨block, side⟩) i)
        ∧ (engine.setting.options.dampingWeight = 0 →
          (∀ side, ∀ entry ∈ answers.relaxed side, entry = 0) →
            ∀ i, i < engine.setting.blockSize block → answers.lagrangian.getD i 0
              = answers.barrier.getD i 0 + engine.setting.constraintTerm block i) := by
  have hlagrangian := h.value_of_answer (.exact _) rfl (Request.known_quantity rfl pool) hanswer
  obtain ⟨barrier, slack, relaxed, hbarrier, hslack, hrelaxed, hlength, hlength', hentry⟩ :=
    h.reachable.wellFormed.sound.exists_gradients h.mu_nonneg h.dampingWeight_nonneg hlagrangian
  -- Every value of the setting is what the engine answers.
  let answers : engine.GradientAnswers block :=
    { barrier, lagrangian := gradient, slack, relaxed
      answers_barrier := h.answers_quantity (.exact _) rfl hbarrier
      answers_lagrangian := h.answers_quantity (.exact _) rfl hlagrangian
      answers_slack := fun side =>
        h.answers_quantity (.exact _) rfl (hslack side)
      answers_relaxed := fun side =>
        h.answers_quantity (.exact _) rfl (hrelaxed side) }
  refine ⟨answers, rfl, hlength, hlength', hentry, fun hweight hcentral i hi => ?_⟩
  -- Every quotient is zero, since its numerator is.
  have hratio : ∀ side, ∀ entry ∈ List.zipWith (· / ·) (relaxed side) (slack side), entry = 0 := by
    intro side entry hmem
    obtain ⟨n, hn, rfl⟩ := List.getElem_of_mem hmem
    rw [List.getElem_zipWith, hcentral side _ (List.getElem_mem _), zero_div]
  rw [hentry i hi, engine.setting.signedEmbed_eq_zero block hratio, hweight]
  ring

/-- The corner, where the slack of the first variable is corrected. -/
theorem Session.barrierGradient_eq_corner :
    0 < Corner.engine.setting.collapsed .xLower Corner.current.x.entries
      ∧ ∃ answers : Corner.engine.GradientAnswers .x, answers.lagrangian = [2, 2]
        ∧ ∀ i, i < 2 → answers.barrier.getD i 0
          = answers.lagrangian.getD i 0 - Corner.engine.setting.constraintTerm .x i
            + Corner.engine.setting.signedEmbed .x
              (fun side => List.zipWith (· / ·) (answers.relaxed side) (answers.slack side)) i
            + 1 * 1 * Corner.engine.setting.signedEmbed .x
                (fun side => Corner.engine.setting.damping.get ⟨.x, side⟩) i := by
  have hanswer : (Corner.engine.answer (.quantity (.lagrangianGradient .x)) ⟨35⟩).1.result.map
      Shared.value = .ok [2, 2] := by decide +kernel
  -- One of the slacks is a corrected one.
  obtain ⟨answers, hlagrangian, -, -, hentry, -⟩ :=
    Session.barrierGradient_eq Corner.session hanswer
  exact ⟨by decide +kernel, answers, hlagrangian, hentry⟩

end InteriorPoint
