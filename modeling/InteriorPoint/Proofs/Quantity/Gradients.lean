import InteriorPoint.Proofs.Linear.Embedding
import InteriorPoint.Proofs.Quantity.BarrierTerm
import InteriorPoint.Proofs.Quantity.Jacobians

/-!
# `InteriorPoint.Proofs.Quantity.Gradients`: the two gradients, entry by entry

Both the gradient of the barrier objective and that of the Lagrangian
start from the gradient of the objective. The first adds the slopes of the
barrier and damping terms, the second the constraint terms and the
multipliers. What they differ in is the relaxed complementarity: for a
slack `d` with multiplier `z` the quotient `(d * z - mu) / d` is
`z - mu / d`, the difference of what either gradient has of the pair
(`relaxed_div_slack`). It does not matter whether `d` is the distance to
the bound or was corrected, as long as both gradients use the same one
and it is not zero.

`Setting.signedEmbed` is `P_L v_L - P_U v_U` for the two sides of a block.
The identity is `Sound.exists_gradients`.
-/

set_option autoImplicit false

namespace InteriorPoint

variable {K : Type} [Field K] [LinearOrder K] [ExactFunctions K]

/-! ### Transposed products -/

/-- Entry `j` of `Aᵀ v`. -/
def Matrix.transposeEntry (A : Matrix K) (v : List K) (j : Nat) : K :=
  (List.zipWith (· * ·) (A.column j) v).sum

/-- A transposed product with a matrix has one entry per column, and each
is a sum of products. -/
theorem Matrix.entries_of_transposeMulVec {A : Matrix K} {v result : List K}
    (h : A.transposeMulVec v = .ok result) :
    result.length = A.columns ∧ ∀ j, j < A.columns → result.getD j 0 = A.transposeEntry v j := by
  unfold transposeMulVec at h
  split at h
  · cases h
    refine ⟨by simp, fun j hj => ?_⟩
    simp [List.getD_eq_getElem?_getD, hj, Linear.laneDot_eq, transposeEntry]
  · cases h

/-- Entry `j` of `Jᵀ v`. -/
def Operator.transposeEntry : Operator K → List K → Nat → K
  | dense A, v, j => A.transposeEntry v j
  | matrixFree J, v, j => (J.transposeTimes v).getD j 0

/-- A transposed product has one entry per column, and these are its
entries. -/
theorem Operator.entries_of_transposeMulVec {J : Operator K} {v result : List K}
    (h : J.transposeMulVec v = .ok result) :
    result.length = J.columns ∧ ∀ j, j < J.columns → result.getD j 0 = J.transposeEntry v j := by
  -- Both kinds of operators check the size of the vector first.
  cases J with
  | dense A => exact Matrix.entries_of_transposeMulVec h
  | matrixFree J =>
      simp only [transposeMulVec] at h
      split at h
      · rename_i hv
        cases h
        exact ⟨J.length_transposeTimes v hv, fun _ _ => rfl⟩
      · cases h

namespace Setting

/-- Entry `i` of the constraint terms in the gradient of the Lagrangian:
of `J_cᵀ y_c + J_dᵀ y_d` for `x`, and of `-y_d` for `s`. -/
def constraintTerm (setting : Setting K) : Block → Nat → K
  | .x, i =>
    let current := setting.state.current
    let jacobian := fun group => setting.problem.callbacks.jacobian group current.x.entries
    (jacobian .equality).transposeEntry current.yC.entries i
      + (jacobian .inequality).transposeEntry current.yD.entries i
  | .s, i => -setting.state.current.yD.entries.getD i 0

/-- Entry `i` of `P_L v_L - P_U v_U` for a block. -/
def signedEmbed (setting : Setting K) (block : Block) (v : Side → List K) (i : Nat) : K :=
  (setting.problem.limits ⟨block, .lower⟩).selection.embed (v .lower) i
    - (setting.problem.limits ⟨block, .upper⟩).selection.embed (v .upper) i

variable {setting : Setting K} {block : Block}

/-- The product with a transposed Jacobian has one entry for each
variable. -/
theorem entries_of_jacobianTransposeTimes {group : Group} {v : TaggedVector K} {result : List K}
    (h : setting.value (.jacobianTransposeTimes group v) = .ok result) :
    result.length = setting.dims.x ∧ ∀ j, j < setting.dims.x → result.getD j 0
      = (setting.problem.callbacks.jacobian group setting.state.current.x.entries).transposeEntry
        v.entries j := by
  obtain ⟨-, hshape, hproduct⟩ := value_jacobianTransposeTimes_eq_ok.1 h
  rw [hshape.columns]
  exact Operator.entries_of_transposeMulVec hproduct

/-! ### The gradient of the Lagrangian -/

section
variable (hsound : setting.Sound)
include hsound

/-- Adding at the bounded variables of a side, entry by entry. -/
theorem Sound.gives_scatterAdd_entry (side : Side) (alpha : K) {v target : List K}
    (hv : v.length = setting.dims.bounds.get ⟨block, side⟩)
    (htarget : target.length = setting.blockSize block) :
    Checked.Gives ((setting.problem.limits ⟨block, side⟩).selection.scatterAdd alpha v target)
      fun result => result.length = setting.blockSize block
        ∧ ∀ i, i < setting.blockSize block → result.getD i 0 = target.getD i 0
          + alpha * (setting.problem.limits ⟨block, side⟩).selection.embed v i := by
  rw [← hsound.selection_dim block side] at htarget ⊢
  exact Selection.gives_scatterAdd_entry _ alpha (hv.trans (hsound.selection_size _).symm) htarget

/-- The multipliers enter with the signs of their sides. -/
theorem Sound.gives_addMultiplierGradient_entry {gradient : List K}
    (hgradient : gradient.length = setting.blockSize block) :
    Checked.Gives (Quantity.addMultiplierGradient setting block gradient) fun result =>
      result.length = setting.blockSize block
        ∧ ∀ i, i < setting.blockSize block → result.getD i 0 = gradient.getD i 0
          - setting.signedEmbed block
            (fun side => (setting.state.current.multipliers.get ⟨block, side⟩).entries) i := by
  have hmultiplier := fun side =>
    hsound.length_multiplier setting.iterateAt_current ⟨block, side⟩
  unfold Quantity.addMultiplierGradient
  -- The lower multipliers are subtracted, the upper ones are added.
  refine (hsound.gives_scatterAdd_entry .lower _ (hmultiplier .lower) hgradient).bind
    fun g₁ ⟨hg₁, hentry₁⟩ => ?_
  refine (hsound.gives_scatterAdd_entry .upper _ (hmultiplier .upper) hg₁).mono
    fun g₂ ⟨hg₂, hentry₂⟩ => ⟨hg₂, fun i hi => ?_⟩
  rw [hentry₂ i hi, hentry₁ i hi, signedEmbed]
  ring

/-- Where the gradient of the Lagrangian exists, so does that of the
objective, and the rest are the constraint terms and the multipliers. -/
theorem Sound.lagrangianGradient_entry {gradient : List K}
    (h : setting.value (.lagrangianGradient block) = .ok gradient) :
    (setting.objectivePart block).length = setting.blockSize block
      ∧ gradient.length = setting.blockSize block
      ∧ ∀ i, i < setting.blockSize block → gradient.getD i 0
        = (setting.objectivePart block).getD i 0 + setting.constraintTerm block i
          - setting.signedEmbed block
            (fun side => (setting.state.current.multipliers.get ⟨block, side⟩).entries) i := by
  rw [value_eq] at h
  -- The `x` part has all terms. The `s` part has a constraint term and the multipliers.
  cases block with
  | x =>
      simp only [key, Quantity.formula, eval_bind, eval_value, eval_lift, pure_bind,
        Checked.bind_eq_ok, Linear.add, Linear.pairwise_eq_ok] at h
      obtain ⟨g, hg, cTerm, hc, _, ⟨hcSize, rfl⟩, dTerm, hd, _, ⟨hdSize, rfl⟩, hadd⟩ := h
      obtain ⟨hsize, rfl⟩ := value_objectiveGradient_eq_ok.1 hg
      obtain ⟨hcLength, hcEntry⟩ := entries_of_jacobianTransposeTimes hc
      obtain ⟨hdLength, hdEntry⟩ := entries_of_jacobianTransposeTimes hd
      have hsum : (List.zipWith (· + ·) (List.zipWith (· + ·)
          (setting.problem.callbacks.gradient setting.state.current.x.entries) cTerm)
          dTerm).length = setting.blockSize .x := by
        rw [List.length_zipWith, hdSize, hdLength, Nat.min_self]
        rfl
      obtain ⟨hlength, hentry⟩ := (hsound.gives_addMultiplierGradient_entry hsum).of_eq_ok hadd
      refine ⟨hsize.symm, hlength, fun i hi => ?_⟩
      rw [hentry i hi, Linear.getD_add hdSize, Linear.getD_add hcSize, hcEntry i hi, hdEntry i hi]
      simp only [objectivePart, constraintTerm]
      ring
  | s =>
      simp only [key, Quantity.formula, eval_lift, pure_bind] at h
      have hyD : (Linear.neg setting.state.current.yD.entries).length = setting.blockSize .s :=
        (List.length_map _).trans (hsound.length_yD setting.iterateAt_current)
      obtain ⟨hlength, hentry⟩ := (hsound.gives_addMultiplierGradient_entry hyD).of_eq_ok h
      refine ⟨List.length_replicate, hlength, fun i hi => ?_⟩
      rw [hentry i hi, Linear.getD_neg, objectivePart, Linear.getD_zeros, zero_add]
      rfl

end

/-! ### The gradient of the barrier objective -/

/-- The slope of a family along a single variable. -/
theorem Sound.familySlope_unit (hsound : setting.Sound) (side : Side) (slack : List K) {i : Nat}
    (hi : i < setting.blockSize block) :
    setting.familySlope ⟨block, side⟩ slack
        ((setting.problem.limits ⟨block, side⟩).selection.indices.map
          ((Linear.unit (setting.blockSize block) i).getD · 0))
      = -setting.mu * (setting.problem.limits ⟨block, side⟩).selection.embed (slack.map (1 / ·)) i
        + setting.options.dampingWeight * setting.mu
          * (setting.problem.limits ⟨block, side⟩).selection.embed
            (setting.damping.get ⟨block, side⟩) i := by
  rw [← hsound.selection_dim block side] at hi ⊢
  rw [familySlope, Selection.laneDot_select_unit _ _ hi, Selection.laneDot_select_unit _ _ hi]

/-- An entry of the gradient of the barrier objective, read off by pairing
with a unit vector. -/
theorem Sound.gives_barrierGradient_entry [IsStrictOrderedRing K] (hsound : setting.Sound)
    (hmu : 0 ≤ setting.mu) (hweight : 0 ≤ setting.options.dampingWeight)
    (hgradient : (setting.objectivePart block).length = setting.blockSize block)
    {slack : Side → List K}
    (hslack : ∀ side, setting.value (.slack .current ⟨block, side⟩) = .ok (slack side))
    (hlength : ∀ side, (slack side).length = setting.dims.bounds.get ⟨block, side⟩) :
    Checked.Gives (setting.value (.barrierGradient block)) fun (result : List K) =>
      result.length = setting.blockSize block
        ∧ ∀ i, i < setting.blockSize block → result.getD i 0
          = (setting.objectivePart block).getD i 0
            - setting.mu * setting.signedEmbed block (fun side => (slack side).map (1 / ·)) i
            + setting.options.dampingWeight * setting.mu * setting.signedEmbed block
              (fun side => setting.damping.get ⟨block, side⟩) i := by
  refine (hsound.gives_barrierGradient hmu hweight hgradient hslack hlength).mono
    fun result ⟨hresult, hdot⟩ => ⟨hresult, fun i hi => ?_⟩
  -- Entry `i` is the derivative along variable `i`.
  have hentry := Linear.laneDot_unit result (hresult.symm ▸ hi)
  have hpart := Linear.laneDot_unit (setting.objectivePart block) (hgradient.symm ▸ hi)
  rw [hresult] at hentry
  rw [hgradient] at hpart
  rw [← hentry, hdot _ (Linear.length_unit _ _), hpart, slopeFor_eq,
    hsound.familySlope_unit .lower _ hi, hsound.familySlope_unit .upper _ hi]
  simp only [signedEmbed]
  ring

/-! ### Relaxed complementarity -/

/-- The relaxed complementarity is the product less the barrier parameter.
-/
theorem value_relaxedComplementarity {family : Family} {slack : List K}
    (hslack : setting.value (.slack .current family) = .ok slack)
    (hlength : slack.length
      = (setting.state.current.multipliers.get family).entries.length) :
    setting.value (.relaxedComplementarity family)
      = .ok (Linear.shift (-setting.mu) (List.zipWith (· * ·) slack
        (setting.state.current.multipliers.get family).entries)) := by
  have hproducts := value_complementarity hslack hlength
  rw [value_eq]
  simp [key, Quantity.formula, hproducts]

end Setting

/-- The relaxed complementarity in units of the slack is what the
multiplier has more than the slack on the central path asks for. -/
theorem relaxed_div_slack (mu : K) {slack multiplier : List K}
    (hlength : slack.length = multiplier.length) (hslack : ∀ d ∈ slack, d ≠ 0) :
    List.zipWith (· / ·) (Linear.shift (-mu) (List.zipWith (· * ·) slack multiplier)) slack
      = List.zipWith (· - ·) multiplier ((slack.map (1 / ·)).map (· * mu)) := by
  refine List.ext_getElem (by simp [Linear.shift, hlength]) fun n hn _ => ?_
  have hn' : n < slack.length := by
    simp [Linear.shift] at hn
    omega
  have hnonzero : slack[n] ≠ 0 := hslack _ (List.getElem_mem hn')
  simp only [Linear.shift, List.getElem_zipWith, List.getElem_map]
  -- The slack cancels from the product, and `mu` is divided by it.
  rw [add_div, mul_div_cancel_left₀ _ hnonzero]
  ring

/-! ### The identity -/

namespace Setting

variable {setting : Setting K} {block : Block}

/-- What the multipliers of a block have more than its slacks on the
central path ask for, embedded. -/
theorem signedEmbed_ratio (setting : Setting K) (block : Block) {slack multiplier : Side → List K}
    (hlength : ∀ side, (slack side).length = (multiplier side).length)
    (hslack : ∀ side, ∀ d ∈ slack side, d ≠ 0) (i : Nat) :
    setting.signedEmbed block (fun side => List.zipWith (· / ·)
        (Linear.shift (-setting.mu) (List.zipWith (· * ·) (slack side) (multiplier side)))
        (slack side)) i
      = setting.signedEmbed block multiplier i
        - setting.mu * setting.signedEmbed block (fun side => (slack side).map (1 / ·)) i := by
  have hinverse : ∀ side, (multiplier side).length
      = (((slack side).map (1 / ·)).map (· * setting.mu)).length := by
    intro side
    rw [List.length_map, List.length_map, hlength]
  simp only [signedEmbed, relaxed_div_slack _ (hlength _) (hslack _),
    Selection.embed_sub _ (hinverse _), Selection.embed_map_mul]
  ring

/-- The gradient of the barrier objective and that of the Lagrangian
differ by the constraint terms, the relaxed complementarity in units of
the slacks, and the damping terms. All of these exist where the gradient
of the Lagrangian does. -/
theorem Sound.exists_gradients [IsStrictOrderedRing K] (hsound : setting.Sound)
    (hmu : 0 ≤ setting.mu) (hweight : 0 ≤ setting.options.dampingWeight) {lagrangian : List K}
    (h : setting.value (.lagrangianGradient block) = .ok lagrangian) :
    ∃ (barrier : List K) (slack relaxed : Side → List K),
      setting.value (.barrierGradient block) = .ok barrier
        ∧ (∀ side, setting.value (.slack .current ⟨block, side⟩) = .ok (slack side))
        ∧ (∀ side, setting.value (.relaxedComplementarity ⟨block, side⟩) = .ok (relaxed side))
        ∧ barrier.length = setting.blockSize block ∧ lagrangian.length = setting.blockSize block
        ∧ ∀ i, i < setting.blockSize block → barrier.getD i 0
          = lagrangian.getD i 0 - setting.constraintTerm block i
            + setting.signedEmbed block
              (fun side => List.zipWith (· / ·) (relaxed side) (slack side)) i
            + setting.options.dampingWeight * setting.mu * setting.signedEmbed block
              (fun side => setting.damping.get ⟨block, side⟩) i := by
  obtain ⟨hgradient, hlagrangian, hlagrangianEntry⟩ := hsound.lagrangianGradient_entry h
  choose slack hslack hlength hcorrects using fun side =>
    hsound.gives_slack setting.iterateAt_current ⟨block, side⟩
  have hmultiplier : ∀ side, (slack side).length
      = (setting.state.current.multipliers.get ⟨block, side⟩).entries.length := fun side =>
    (hlength side).trans (hsound.length_multiplier setting.iterateAt_current ⟨block, side⟩).symm
  -- The slacks are corrected, so that they can be divided by.
  have hnonzero : ∀ side, ∀ d ∈ slack side, d ≠ 0 := fun side d hd =>
    ((Slack.least_pos _).trans_le (Slack.least_le_of_corrects (hcorrects side) d hd)).ne'
  obtain ⟨barrier, hbarrier, hbarrierLength, hbarrierEntry⟩ :=
    hsound.gives_barrierGradient_entry hmu hweight hgradient hslack hlength
  refine ⟨barrier, slack, _, hbarrier, hslack,
    fun side => value_relaxedComplementarity (hslack side) (hmultiplier side), hbarrierLength,
    hlagrangian, fun i hi => ?_⟩
  rw [hbarrierEntry i hi, hlagrangianEntry i hi,
    setting.signedEmbed_ratio block hmultiplier hnonzero i]
  ring

end Setting

end InteriorPoint
