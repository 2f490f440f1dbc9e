import InteriorPoint.Proofs.Optimality
import InteriorPoint.Proofs.Quantity.Refusals
import InteriorPoint.Proofs.Quantity.Value

/-!
# `InteriorPoint.Proofs.Quantity.Residuals`: the errors and what they measure

Four errors are computed from eight vectors: the residuals of the two
groups of constraints, the gradients of the Lagrangian for the two blocks
of variables, and the complementarity products of the four families. If
one of the errors has a value, so has each of the vectors
(`exists_hasResiduals_of_error`), and with these all four errors have one,
which is a measure of the `Residuals`. The number by which a mean error
divides is put together from the sizes of the problem, and it is the
number of entries of the eight vectors (`HasResiduals.count_residuals`).
-/

set_option autoImplicit false

namespace InteriorPoint

/-- Values for the four families are put together if there is one for
each. -/
theorem PerFamily.ofFnM_eq_ok {α β : Type} {value : Family → Checked α β}
    {values : PerFamily β} :
    PerFamily.ofFnM value = .ok values ↔ ∀ family, value family = .ok (values.get family) := by
  unfold ofFnM
  simp only [Checked.bind_eq_ok, Checked.pure_eq_ok]
  constructor
  · rintro ⟨xLower, hxLower, xUpper, hxUpper, sLower, hsLower, sUpper, hsUpper, rfl⟩
    rintro ⟨_ | _, _ | _⟩
    · exact hxLower
    · exact hxUpper
    · exact hsLower
    · exact hsUpper
  · intro h
    exact ⟨_, h .xLower, _, h .xUpper, _, h .sLower, _, h .sUpper, rfl⟩

/-- The bounds are those of the four families. -/
theorem Dimensions.boundCount_eq_sum (dims : Dimensions) :
    dims.boundCount = (Family.all.map dims.bounds.get).sum := by
  simp only [boundCount, Family.all, List.map_cons, List.map_nil, List.sum_cons, List.sum_nil,
    Nat.add_zero, Nat.add_assoc]
  rfl

/-- Vectors that have an entry for every bound of their family have as many
entries together as there are bounds. -/
theorem Dimensions.length_flatten {α : Type} {dims : Dimensions} {vectors : PerFamily (List α)}
    (h : ∀ family, (vectors.get family).length = dims.bounds.get family) :
    vectors.toList.flatten.length = dims.boundCount := by
  have hlist : vectors.toList = Family.all.map vectors.get := rfl
  rw [hlist, boundCount_eq_sum, List.length_flatten, List.map_map]
  exact congrArg List.sum (List.map_congr_left fun family _ => h family)

/-- The eight vectors that the errors measure. -/
structure ResidualVectors (α : Type) where
  /-- The equality constraints, `c(x)`. -/
  equality : List α
  /-- The inequality constraints and their slack variables, `d(x) - s`. -/
  inequality : List α
  lagrangian : Block → List α
  complementarity : PerFamily (List α)

/-- The eight vectors in the groups in which they are measured. -/
def ResidualVectors.residuals {α : Type} (v : ResidualVectors α) : Residuals α where
  primal := [v.equality, v.inequality]
  dual := [v.lagrangian .x, v.lagrangian .s]
  complementarity := v.complementarity.toList

/-- The quantities that measure all residuals at once. -/
def Quantity.errors {α : Type} : List (Quantity α .scalar) :=
  [.problemError, .barrierError, .meanError, .meanBarrierError]

namespace Setting

variable {α : Type} [Scalar α]

/-- The divisors of the optimality error at the current point. -/
def errorScaling (setting : Setting α) : ErrorScaling α :=
  setting.state.current.errorScaling setting.options.multiplierThreshold

/-- The eight vectors have these values. -/
structure HasResiduals (setting : Setting α) (v : ResidualVectors α) : Prop where
  equality : setting.value (.constraint .equality .current) = .ok v.equality
  inequality : setting.value (.inequalityResidual .current) = .ok v.inequality
  lagrangian : ∀ block, setting.value (.lagrangianGradient block) = .ok (v.lagrangian block)
  complementarity : ∀ family,
    setting.value (.complementarity family) = .ok (v.complementarity.get family)

variable {setting : Setting α} {v : ResidualVectors α}

/-! ### The three groups -/

/-- The primal infeasibility measures the two residuals of the
constraints, and has a value if both have. -/
theorem value_primalInfeasibility_eq_ok {norm : Norm} {result : α} :
    setting.value (.primalInfeasibility .current norm) = .ok result
      ↔ ∃ c, setting.value (.constraint .equality .current) = .ok c
        ∧ ∃ residual, setting.value (.inequalityResidual .current) = .ok residual
          ∧ norm.ofVectors [c, residual] = result := by
  rw [value_eq]
  simp only [key, Quantity.formula, iterateAt_current, Checked.ok_bind, pure_bind, eval_bind,
    eval_value, eval_pure, Checked.bind_eq_ok, Checked.pure_eq_ok, Norm.ofPair]

/-- The dual infeasibility measures the gradient of the Lagrangian in both
blocks. -/
theorem value_dualInfeasibility_eq_ok {norm : Norm} {result : α} :
    setting.value (.dualInfeasibility norm) = .ok result
      ↔ ∃ xGradient, setting.value (.lagrangianGradient .x) = .ok xGradient
        ∧ ∃ sGradient, setting.value (.lagrangianGradient .s) = .ok sGradient
          ∧ norm.ofVectors [xGradient, sGradient] = result := by
  rw [value_eq]
  simp only [key, Quantity.formula, pure_bind, eval_bind, eval_value, eval_pure,
    Checked.bind_eq_ok, Checked.pure_eq_ok, Norm.ofPair]

/-- The norm of the complementarity measures the products of all families,
relative to the target. -/
theorem value_complementarityNorm_eq_ok {target : α} {norm : Norm} {result : α} :
    setting.value (.complementarityNorm target norm) = .ok result
      ↔ ∃ products : PerFamily (List α),
        (∀ family, setting.value (.complementarity family) = .ok (products.get family))
        ∧ norm.ofVectors (products.toList.map (Linear.shift (-target)))
          = result := by
  rw [value_eq]
  simp only [key, Quantity.formula, pure_bind, eval_bind, eval_complementarities, eval_pure,
    Checked.bind_eq_ok, Checked.pure_eq_ok, PerFamily.ofFnM_eq_ok]

/-- The rank of the request is evaluated in its bound, which `eval_value`
does not see through. -/
theorem eval_dualInfeasibility (setting : Setting α) (norm : Norm) {bound : Nat}
    (lower : 3 < bound) :
    setting.eval (β := no_index (Carrier α .scalar)) (Program.value (.dualInfeasibility norm) lower)
      = setting.value (.dualInfeasibility norm) :=
  setting.eval_value _ lower

/-! ### From the errors to the vectors -/

/-- A measure of each group is enough, in whatever norm. -/
theorem exists_hasResiduals {primal dual complementarity : Norm} {target : α}
    (hprimal : ∃ a, setting.value (.primalInfeasibility .current primal) = .ok a)
    (hdual : ∃ b, setting.value (.dualInfeasibility dual) = .ok b)
    (hcomplementarity :
      ∃ c, setting.value (.complementarityNorm target complementarity) = .ok c) :
    ∃ v, setting.HasResiduals v := by
  obtain ⟨_, hprimal⟩ := hprimal
  obtain ⟨_, hdual⟩ := hdual
  obtain ⟨_, hcomplementarity⟩ := hcomplementarity
  obtain ⟨equality, hequality, inequality, hinequality, -⟩ :=
    value_primalInfeasibility_eq_ok.1 hprimal
  obtain ⟨xGradient, hx, sGradient, hs, -⟩ := value_dualInfeasibility_eq_ok.1 hdual
  obtain ⟨products, hproducts, -⟩ := value_complementarityNorm_eq_ok.1 hcomplementarity
  -- The two gradients as one function of the block.
  have hblock : ∀ block, ∃ gradient, setting.value (.lagrangianGradient block) = .ok gradient := by
    intro block
    cases block with
    | x => exact ⟨_, hx⟩
    | s => exact ⟨_, hs⟩
  choose lagrangian hlagrangian using hblock
  exact ⟨⟨equality, inequality, lagrangian, products⟩, hequality, hinequality, hlagrangian,
    hproducts⟩

/-- A scaled error asks for a measure of each group. -/
theorem exists_hasResiduals_of_scaledError {target result : α} {bound : Nat} {lower : 3 < bound}
    (h : setting.eval (Quantity.scaledError setting target lower) = .ok result) :
    ∃ v, setting.HasResiduals v := by
  simp only [Quantity.scaledError, eval_bind, eval_value, eval_dualInfeasibility,
    Checked.bind_eq_ok] at h
  obtain ⟨dual, hdual, primal, hprimal, complementarity, hcomplementarity, -⟩ := h
  exact exists_hasResiduals ⟨_, hprimal⟩ ⟨_, hdual⟩ ⟨_, hcomplementarity⟩

/-- A mean error asks for a measure of each group, in another norm. -/
theorem exists_hasResiduals_of_averagedError {target result : α} {bound : Nat}
    {lower : 3 < bound}
    (h : setting.eval (Quantity.averagedError setting target lower) = .ok result) :
    ∃ v, setting.HasResiduals v := by
  simp only [Quantity.averagedError, eval_bind, eval_value, eval_dualInfeasibility,
    Checked.bind_eq_ok] at h
  obtain ⟨primal, hprimal, dual, hdual, complementarity, hcomplementarity, -⟩ := h
  exact exists_hasResiduals ⟨_, hprimal⟩ ⟨_, hdual⟩ ⟨_, hcomplementarity⟩

/-- Where one of the errors has a value, each of the eight vectors has
one. -/
theorem exists_hasResiduals_of_error {error : Quantity α .scalar} (herror : error ∈ Quantity.errors)
    {result : α} (h : setting.value error = .ok result) : ∃ v, setting.HasResiduals v := by
  simp only [Quantity.errors, List.mem_cons, List.not_mem_nil, or_false] at herror
  -- The first two errors are scaled, the other two are means.
  rcases herror with rfl | rfl | rfl | rfl <;>
    simp only [value_eq, key, Quantity.formula, pure_bind] at h
  · exact exists_hasResiduals_of_scaledError h
  · exact exists_hasResiduals_of_scaledError h
  · exact exists_hasResiduals_of_averagedError h
  · exact exists_hasResiduals_of_averagedError h

/-! ### From the vectors to the errors -/

section
variable (h : setting.HasResiduals v)
include h

/-- The primal infeasibility, from the eight vectors. -/
theorem HasResiduals.primalInfeasibility (norm : Norm) :
    setting.value (.primalInfeasibility .current norm) = .ok (norm.ofVectors v.residuals.primal) :=
  value_primalInfeasibility_eq_ok.2 ⟨_, h.equality, _, h.inequality, rfl⟩

/-- The dual infeasibility, from the eight vectors. -/
theorem HasResiduals.dualInfeasibility (norm : Norm) :
    setting.value (.dualInfeasibility norm) = .ok (norm.ofVectors v.residuals.dual) :=
  value_dualInfeasibility_eq_ok.2 ⟨_, h.lagrangian .x, _, h.lagrangian .s, rfl⟩

/-- The norm of the complementarity relative to a target, from the eight
vectors. -/
theorem HasResiduals.complementarityNorm (target : α) (norm : Norm) :
    setting.value (.complementarityNorm target norm)
      = .ok (norm.ofVectors (v.residuals.relative target).complementarity) :=
  value_complementarityNorm_eq_ok.2 ⟨_, h.complementarity, rfl⟩

/-- The program of the scaled errors comes to the scaled error of the
residuals. -/
theorem HasResiduals.eval_scaledError (target : α) {bound : Nat} (lower : 3 < bound) :
    setting.eval (Quantity.scaledError setting target lower)
      = .ok ((v.residuals.relative target).scaled setting.errorScaling) := by
  simp only [Quantity.scaledError, eval_bind, eval_value, eval_dualInfeasibility,
    h.primalInfeasibility, h.dualInfeasibility, h.complementarityNorm, Checked.ok_bind]
  rfl

/-- The number of entries, as the mean errors compute it. -/
theorem HasResiduals.count_residuals (hsound : setting.Sound) :
    v.residuals.count = max (setting.dims.c + 2 * setting.dims.s + setting.dims.x
      + setting.dims.boundCount) 1 := by
  have hc : v.equality.length = setting.dims.c := hsound.fits_value h.equality
  have hd : v.inequality.length = setting.dims.s := hsound.fits_value h.inequality
  have hx : (v.lagrangian .x).length = setting.dims.x := hsound.fits_value (h.lagrangian .x)
  have hs : (v.lagrangian .s).length = setting.dims.s := hsound.fits_value (h.lagrangian .s)
  have hcomplementarity : v.complementarity.toList.flatten.length = setting.dims.boundCount :=
    Dimensions.length_flatten fun family => hsound.fits_value (h.complementarity family)
  -- The slack variables count twice, in `d(x) - s` and in the gradient for `s`.
  have hentries : v.residuals.entries.length
      = setting.dims.c + 2 * setting.dims.s + setting.dims.x + setting.dims.boundCount := by
    simp only [Residuals.entries, ResidualVectors.residuals, List.length_append,
      hcomplementarity, List.flatten_cons, List.flatten_nil, List.length_nil, hc, hd, hx, hs]
    omega
  rw [Residuals.count, hentries]

/-- The program of the mean errors comes to the mean of the residuals. -/
theorem HasResiduals.eval_averagedError (hsound : setting.Sound) (target : α) {bound : Nat}
    (lower : 3 < bound) :
    setting.eval (Quantity.averagedError setting target lower)
      = .ok (v.residuals.relative target).mean := by
  -- A shift of the products does not change how many there are.
  have hcount := (v.residuals.count_relative target).trans (h.count_residuals hsound)
  simp only [Quantity.averagedError, eval_bind, eval_value, eval_dualInfeasibility,
    h.primalInfeasibility, h.dualInfeasibility, h.complementarityNorm, Checked.ok_bind, ← hcount]
  rfl

/-- The error of the problem is relative to zero. -/
theorem HasResiduals.problemError :
    setting.value .problemError
      = .ok ((v.residuals.relative 0).scaled setting.errorScaling) := by
  simp only [value_eq, key, Quantity.formula, pure_bind, h.eval_scaledError]

/-- The error of the barrier problem is relative to the barrier parameter.
-/
theorem HasResiduals.barrierError :
    setting.value .barrierError
      = .ok ((v.residuals.relative setting.mu).scaled setting.errorScaling) := by
  simp only [value_eq, key, Quantity.formula, pure_bind, h.eval_scaledError]

/-- The mean error of the problem. -/
theorem HasResiduals.meanError (hsound : setting.Sound) :
    setting.value .meanError = .ok (v.residuals.relative 0).mean := by
  simp only [value_eq, key, Quantity.formula, pure_bind, h.eval_averagedError hsound]

/-- The mean error of the barrier problem. -/
theorem HasResiduals.meanBarrierError (hsound : setting.Sound) :
    setting.value .meanBarrierError = .ok (v.residuals.relative setting.mu).mean := by
  simp only [value_eq, key, Quantity.formula, pure_bind, h.eval_averagedError hsound]

end

end Setting

end InteriorPoint
