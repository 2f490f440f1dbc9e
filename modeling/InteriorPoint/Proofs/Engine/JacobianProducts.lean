import InteriorPoint.Proofs.Engine.Answers
import InteriorPoint.Proofs.Linear.Adjoint
import InteriorPoint.Proofs.Quantity.Jacobians

/-!
# `InteriorPoint.Proofs.Engine.JacobianProducts`: products with a Jacobian

An engine multiplies vectors by the Jacobian of a group of constraints
and by its transpose. The answers are stored under the identities of the
vectors, and in the meantime new vectors are created. Nevertheless there
is one map from entries to entries that all answers to products of a kind
come from, as long as the engine stays in the same setting. The two maps
are linear and adjoint to each other (`Session.jacobian_adjoint`).

The Jacobian is a dense matrix. It may have any entries and any number of
rows and columns, none included, provided that it has the shape that the
engine checks.
-/

set_option autoImplicit false

namespace InteriorPoint

namespace Setting

variable {K : Type} [Field K] [LinearOrder K] [ExactFunctions K] {setting : Setting K}
  {group : Group} (hshape : setting.JacobianShaped group) {A : Matrix K}
  (hdense : setting.currentJacobian group = .dense A)
include hshape hdense

omit [Field K] [LinearOrder K] [ExactFunctions K] in
/-- The matrix has the shape that is checked. -/
theorem JacobianShaped.dense :
    setting.dims.x = A.columns ∧ setting.groupSize group = A.rowCount := by
  obtain ⟨hrows, hcolumns⟩ := hshape
  rw [hdense] at hrows hcolumns
  exact ⟨hcolumns, hrows⟩

variable {v : TaggedVector K}

/-- The product with a dense Jacobian. -/
theorem JacobianShaped.value_jacobianTimes (hv : v.size = setting.dims.x) :
    setting.value (.jacobianTimes group v) = .ok (A.times v.entries) := by
  have hproduct := Matrix.mulVec_eq_ok (hv.trans (hshape.dense hdense).1)
  refine value_jacobianTimes_eq_ok.2 ⟨hv.symm, hshape, ?_⟩
  rw [hdense]
  exact hproduct

/-- The product with a transposed dense Jacobian. -/
theorem JacobianShaped.value_jacobianTransposeTimes (hv : v.size = setting.groupSize group) :
    setting.value (.jacobianTransposeTimes group v) = .ok (A.transposeTimes v.entries) := by
  have hproduct := Matrix.transposeMulVec_eq_ok (hv.trans (hshape.dense hdense).2)
  refine value_jacobianTransposeTimes_eq_ok.2 ⟨hv.symm, hshape, ?_⟩
  rw [hdense]
  exact hproduct

end Setting

/-- In all sessions that have come to a setting, the answers to products
with a dense Jacobian and with its transpose come from two maps of
entries, for every vector of the right size that has been created by
then. The maps are linear and adjoint to each other. -/
theorem Session.jacobian_adjoint {K : Type} [Field K] [LinearOrder K] [ExactFunctions K]
    [IsStrictOrderedRing K] {setting : Setting K} {group : Group}
    {A : Matrix K} (hdense : setting.currentJacobian group = .dense A)
    (hshape : setting.JacobianShaped group) :
    ∃ times transposeTimes : List K → List K,
      AdjointPair setting.dims.x (setting.groupSize group) times transposeTimes
      ∧ ∀ {pool : Pool K} {engine : Engine K}, Session pool engine → engine.setting = setting →
          ∀ v ∈ pool.vectors, ∀ supply,
            (v.size = setting.dims.x →
              (engine.answer (.quantity (.jacobianTimes group v)) supply).1.result.map Shared.value
                = .ok (times v.entries))
            ∧ (v.size = setting.groupSize group →
              (engine.answer (.quantity (.jacobianTransposeTimes group v))
                supply).1.result.map Shared.value = .ok (transposeTimes v.entries)) := by
  have hpair := A.adjointPair
  rw [← (hshape.dense hdense).1, ← (hshape.dense hdense).2] at hpair
  -- An answer is the value of the quantity, whether it was stored or is computed now.
  refine ⟨_, _, hpair, fun {pool engine} h hsetting v hv supply => ⟨fun hsize => ?_,
    fun hsize => ?_⟩⟩
  · have hknown : (Request.quantity (.jacobianTimes group v)).Known pool :=
      List.forall_mem_singleton.2 hv
    rw [h.answer_eq_value (.exact _) rfl hknown supply, hsetting]
    exact hshape.value_jacobianTimes hdense hsize
  · have hknown : (Request.quantity (.jacobianTransposeTimes group v)).Known pool :=
      List.forall_mem_singleton.2 hv
    rw [h.answer_eq_value (.exact _) rfl hknown supply, hsetting]
    exact hshape.value_jacobianTransposeTimes hdense hsize

/-- The equality constraint of a small problem, multiplied with the
current `x` and with its multiplier. -/
theorem Session.jacobian_adjoint_corner :
    Session (Corner.pool.learn Corner.state ⟨35⟩) Corner.engine
      ∧ Corner.engine.setting.currentJacobian .equality = .dense (.ofFn 1 2 fun _ _ => 1)
      ∧ Corner.engine.setting.JacobianShaped .equality
      ∧ ∃ times transposeTimes : List ℚ → List ℚ, AdjointPair 2 1 times transposeTimes
        ∧ times [0, 2] = [2] ∧ transposeTimes [2] = [2, 2] := by
  have hshape : Corner.engine.setting.JacobianShaped .equality := ⟨rfl, rfl⟩
  obtain ⟨times, transposeTimes, hpair, hanswers⟩ :=
    Session.jacobian_adjoint rfl hshape
  have hx : Corner.current.x ∈ (Corner.pool.learn Corner.state ⟨35⟩).vectors := by decide +kernel
  have hyC : Corner.current.yC ∈ (Corner.pool.learn Corner.state ⟨35⟩).vectors := by
    decide +kernel
  have htimes : (Corner.engine.answer (.quantity (.jacobianTimes .equality Corner.current.x))
      ⟨35⟩).1.result.map Shared.value = .ok [2] := by decide +kernel
  have htranspose : (Corner.engine.answer
      (.quantity (.jacobianTransposeTimes .equality Corner.current.yC))
      ⟨35⟩).1.result.map Shared.value = .ok [2, 2] := by decide +kernel
  -- Both answers are those of the pair.
  refine ⟨Corner.session, rfl, hshape, times, transposeTimes, hpair, ?_, ?_⟩
  · have hanswer := (hanswers Corner.session rfl _ hx ⟨35⟩).1 rfl
    exact Except.ok.inj (hanswer.symm.trans htimes)
  · have hanswer := (hanswers Corner.session rfl _ hyC ⟨35⟩).2 rfl
    exact Except.ok.inj (hanswer.symm.trans htranspose)

end InteriorPoint
