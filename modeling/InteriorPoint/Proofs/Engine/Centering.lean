import InteriorPoint.Proofs.Engine.Answers
import InteriorPoint.Proofs.Quantity.Centering

/-!
# `InteriorPoint.Proofs.Engine.Centering`: mean complementarity and centrality

An engine answers the mean complementarity and the centrality from two
computations that are kept apart. Both describe the same multiset, the
complementarity products of all families that it answers
(`Session.answers_centering`). This is exact arithmetic.

The values are those of the stored products (`Sound.exists_products`), and
the properties of `Centering` determine them. So two sessions with the same
products agree in both numbers, in whatever families the products occur.
-/

set_option autoImplicit false

namespace InteriorPoint

/-- The complementarity products that an engine answers, their mean and
their centrality. -/
structure Engine.CenteringAnswers {α : Type} [Scalar α] (engine : Engine α) where
  vectors : PerFamily (List α)
  average : α
  centrality : α
  answers_complementarity : ∀ family,
    engine.Answers (.quantity (.complementarity family)) (vectors.get family)
  answers_average : engine.Answers (.quantity (.meanComplementarity .current)) average
  answers_centrality : engine.Answers (.quantity .centralityMeasure) centrality

/-- The products of all families together. -/
def Engine.CenteringAnswers.products {α : Type} [Scalar α] {engine : Engine α}
    (answers : engine.CenteringAnswers) : Multiset α :=
  allEntries answers.vectors.toList

variable {K : Type} [Field K] [LinearOrder K] [ExactFunctions K] [IsStrictOrderedRing K]
  {pool : Pool K} {engine : Engine K}

omit [IsStrictOrderedRing K] in
/-- An engine has one answer to each request. -/
instance : Subsingleton engine.CenteringAnswers where
  allEq answers answers' := by
    have hvectors : answers.vectors = answers'.vectors := PerFamily.ext_get fun family =>
      (answers.answers_complementarity family).unique (answers'.answers_complementarity family)
    have haverage := answers.answers_average.unique answers'.answers_average
    have hcentrality := answers.answers_centrality.unique answers'.answers_centrality
    cases answers
    cases answers'
    cases hvectors
    cases haverage
    cases hcentrality
    rfl

/-- All of them are answered, and the numbers fit the products. -/
theorem Session.exists_centeringAnswers (h : Session pool engine) :
    ∃ answers : engine.CenteringAnswers,
      Centering answers.products answers.average answers.centrality := by
  obtain ⟨products, hproducts, haverage, hcentrality⟩ :=
    h.reachable.wellFormed.sound.exists_products
  -- Whatever was asked before, an answer in exact arithmetic is the value.
  exact ⟨{
      vectors := products
      average := _
      centrality := _
      answers_complementarity := fun family =>
        h.answers_quantity (.exact _) rfl (hproducts family)
      answers_average := h.answers_quantity (.exact _) rfl haverage
      answers_centrality := h.answers_quantity (.exact _) rfl hcentrality },
    centering products.toList⟩

/-- As there is one answer to each request, this is so of any answers. -/
theorem Session.centering_of_answers (h : Session pool engine)
    (answers : engine.CenteringAnswers) :
    Centering answers.products answers.average answers.centrality := by
  obtain ⟨answers', hanswers'⟩ := h.exists_centeringAnswers
  rw [Subsingleton.elim answers answers']
  exact hanswers'

/-- In every session the products of all families, their mean and their
centrality are answered, and the mean and the centrality are what the
multiset of the products says they are. They are the same in another
session that has the same products, however these are distributed among the
families. -/
theorem Session.answers_centering (h : Session pool engine) :
    Nonempty engine.CenteringAnswers
      ∧ ∀ answers : engine.CenteringAnswers,
        Centering answers.products answers.average answers.centrality
          ∧ ∀ {pool' : Pool K} {engine' : Engine K}, Session pool' engine' →
            ∀ answers' : engine'.CenteringAnswers, answers'.products = answers.products →
              answers'.average = answers.average ∧ answers'.centrality = answers.centrality := by
  obtain ⟨answers, -⟩ := h.exists_centeringAnswers
  refine ⟨⟨answers⟩, fun answers => ⟨h.centering_of_answers answers, ?_⟩⟩
  intro pool' engine' h' answers' hproducts
  have hother := h'.centering_of_answers answers'
  rw [hproducts] at hother
  -- Both pairs of numbers belong to one multiset.
  exact hother.unique (h.centering_of_answers answers)

/-- In the corner the first product is smaller than the others. -/
theorem Session.answers_centering_corner :
    ∃ answers : Corner.engine.CenteringAnswers,
      answers.products = {1, 2, 2, 2} ∧ answers.average = 7 / 4 ∧ answers.centrality = 4 / 7
        ∧ IsLeast {p | p ∈ answers.products} (answers.centrality * answers.average) := by
  obtain ⟨⟨answers⟩, hcentering⟩ := Session.answers_centering Corner.session
  have hvector : ∀ family, (Corner.engine.answer (.quantity (.complementarity family))
      ⟨35⟩).1.result.map Shared.value
        = .ok ((⟨[1, 2], [2], [], [2]⟩ : PerFamily (List ℚ)).get family) := by
    rintro ⟨_ | _, _ | _⟩ <;> decide +kernel
  have haverage : (Corner.engine.answer (.quantity (.meanComplementarity .current))
      ⟨35⟩).1.result.map Shared.value = .ok (7 / 4) := by decide +kernel
  have hcentrality : (Corner.engine.answer (.quantity .centralityMeasure)
      ⟨35⟩).1.result.map Shared.value = .ok (4 / 7) := by decide +kernel
  -- What was asked for before is what was computed here.
  have hvectors : answers.vectors = ⟨[1, 2], [2], [], [2]⟩ := PerFamily.ext_get fun family =>
    Except.ok.inj (((answers.answers_complementarity family).now ⟨35⟩).symm.trans (hvector family))
  have hproducts : answers.products = {1, 2, 2, 2} := by
    rw [Engine.CenteringAnswers.products, hvectors]
    rfl
  have hmean : answers.average = 7 / 4 :=
    Except.ok.inj ((answers.answers_average.now ⟨35⟩).symm.trans haverage)
  have hmeasure : answers.centrality = 4 / 7 :=
    Except.ok.inj ((answers.answers_centrality.now ⟨35⟩).symm.trans hcentrality)
  have hleast := (hcentering answers).1.isLeast
  rw [hproducts, hmean] at hleast
  refine ⟨answers, hproducts, hmean, hmeasure, ?_⟩
  rw [hproducts, hmean]
  exact hleast (Multiset.cons_ne_zero) (by decide +kernel) (by decide +kernel)

end InteriorPoint
