import InteriorPoint.Proofs.Pool
import InteriorPoint.Proofs.Quantity.Congruence
import InteriorPoint.Proofs.Scalar.Comparison

/-!
# `InteriorPoint.Proofs.Quantity.Determined`: a key determines a value

A result is stored under the identities and parameters that
`Setting.key` lists and is given out again wherever the same key comes
up: at a later time, for other arguments, or at the other point.
`Setting.value_alike_of_key_eq` says that nothing was forgotten in any of
these lists. Two requests that use the same cache, or the caches of one
another, and have the same key have the same value. Only the sign of a
zero barrier parameter is not in the key, so the four quantities that show
it have values that are the same up to the signs of zeros.

Such requests are the same up to the point and their arguments
(`Quantity.Twin`). Equal identities in a coherent pool mean equal vectors
and equal points, so equal keys mean that the two settings agree on what
the value reads, and the lemmas of
`InteriorPoint.Proofs.Quantity.Congruence` apply.
-/

set_option autoImplicit false

namespace InteriorPoint

/-! ### Requests that can meet in a cache -/

namespace Quantity

variable {α : Type}

/-- The vectors among the arguments of a quantity. -/
def vectors : {k : Kind} → Quantity α k → List (TaggedVector α)
  | _, jacobianTimes _ v | _, jacobianTransposeTimes _ v => [v]
  | _, primalStepLimit _ xStep sStep => [xStep, sStep]
  | _, dualStepLimit _ steps | _, slackStepLimit _ steps => steps.toList
  | _, _ => []

/-- The vectors among the arguments are known to the pool. -/
def Known (pool : Pool α) {k : Kind} (quantity : Quantity α k) : Prop :=
  ∀ v ∈ quantity.vectors, v ∈ pool.vectors

/-- Two quantities use the same cache, or the caches of one another. -/
def SharesSlot {k : Kind} (q₁ q₂ : Quantity α k) : Prop :=
  q₁.slot = q₂.slot ∨ q₁.slot.counterpart? = some q₂.slot

/-- Requests that differ in the point and in arguments only. -/
inductive Twin : {k : Kind} → Quantity α k → Quantity α k → Prop where
  | slack (p₁ p₂ : Point) (family : Family) : Twin (.slack p₁ family) (.slack p₂ family)
  | objective (p₁ p₂ : Point) : Twin (.objective p₁) (.objective p₂)
  | barrierObjective (p₁ p₂ : Point) : Twin (.barrierObjective p₁) (.barrierObjective p₂)
  | constraint (p₁ p₂ : Point) (group : Group) :
      Twin (.constraint group p₁) (.constraint group p₂)
  | inequalityResidual (p₁ p₂ : Point) : Twin (.inequalityResidual p₁) (.inequalityResidual p₂)
  | constraintViolation (p₁ p₂ : Point) : Twin (.constraintViolation p₁) (.constraintViolation p₂)
  | primalInfeasibility (p₁ p₂ : Point) (n₁ n₂ : Norm) :
      Twin (.primalInfeasibility p₁ n₁) (.primalInfeasibility p₂ n₂)
  | meanComplementarity (p₁ p₂ : Point) : Twin (.meanComplementarity p₁) (.meanComplementarity p₂)
  | jacobianTimes (group : Group) (v w : TaggedVector α) :
      Twin (.jacobianTimes group v) (.jacobianTimes group w)
  | jacobianTransposeTimes (group : Group) (v w : TaggedVector α) :
      Twin (.jacobianTransposeTimes group v) (.jacobianTransposeTimes group w)
  | dualInfeasibility (n₁ n₂ : Norm) : Twin (.dualInfeasibility n₁) (.dualInfeasibility n₂)
  | complementarityNorm (t₁ t₂ : α) (n₁ n₂ : Norm) :
      Twin (.complementarityNorm t₁ n₁) (.complementarityNorm t₂ n₂)
  | primalStepLimit (t₁ t₂ : α) (x₁ s₁ x₂ s₂ : TaggedVector α) :
      Twin (.primalStepLimit t₁ x₁ s₁) (.primalStepLimit t₂ x₂ s₂)
  | dualStepLimit (t₁ t₂ : α) (d₁ d₂ : PerFamily (TaggedVector α)) :
      Twin (.dualStepLimit t₁ d₁) (.dualStepLimit t₂ d₂)
  | slackStepLimit (t₁ t₂ : α) (d₁ d₂ : PerFamily (TaggedVector α)) :
      Twin (.slackStepLimit t₁ d₁) (.slackStepLimit t₂ d₂)
  | objectiveGradient : Twin .objectiveGradient .objectiveGradient
  | barrierGradient (block : Block) : Twin (.barrierGradient block) (.barrierGradient block)
  | directionalDerivative : Twin .directionalDerivative .directionalDerivative
  | jacobian (group : Group) : Twin (.jacobian group) (.jacobian group)
  | hessian : Twin .hessian .hessian
  | lagrangianGradient (block : Block) :
      Twin (.lagrangianGradient block) (.lagrangianGradient block)
  | complementarity (family : Family) : Twin (.complementarity family) (.complementarity family)
  | relaxedComplementarity (family : Family) :
      Twin (.relaxedComplementarity family) (.relaxedComplementarity family)
  | centralityMeasure : Twin .centralityMeasure .centralityMeasure
  | problemError : Twin .problemError .problemError
  | barrierError : Twin .barrierError .barrierError
  | meanError : Twin .meanError .meanError
  | meanBarrierError : Twin .meanBarrierError .meanBarrierError
  | primalDualScaling (block : Block) : Twin (.primalDualScaling block) (.primalDualScaling block)

/-- A cache belongs to one quantity, so requests that meet in it are
twins. -/
theorem twin_of_sharesSlot {k : Kind} {q₁ q₂ : Quantity α k} (h : q₁.SharesSlot q₂) :
    q₁.Twin q₂ := by
  rcases h with h | h
  · cases q₁ <;> cases q₂ <;> cases h <;> constructor
  · cases q₁ <;> cases q₂ <;> cases h <;> constructor

end Quantity

/-! ### What a key pins down -/

namespace Setting

section
variable {α : Type} [Scalar α] [LawfulComparison α]

/-- A fraction that is accepted is positive, so its sign was not dropped
from the key. -/
theorem eq_of_ensureFraction {tau₁ tau₂ : α}
    (h₁ : ∃ u, (StepLimit.ensureFraction tau₁ : Checked α Unit) = .ok u)
    (h : Scalar.Alike tau₁ tau₂) : tau₁ = tau₂ := by
  obtain ⟨_, hu⟩ := h₁
  unfold StepLimit.ensureFraction at hu
  split at hu
  · rename_i hrange
    exact h.eq_of_pos hrange.1
  · cases hu

/-- Keys of one identity and one number agree in both, in the number up to
the sign of a zero. -/
theorem eq_of_wholeKey {t₁ t₂ : Tag} {m₁ m₂ : α} {key : Key α}
    (h₁ : { tags := [t₁], parts := [.number (Scalar.unsigned m₁)] } = key)
    (h₂ : { tags := [t₂], parts := [.number (Scalar.unsigned m₂)] } = key) :
    t₁ = t₂ ∧ Scalar.Alike m₁ m₂ := by
  subst h₁
  simp only [Key.mk.injEq, List.cons.injEq, KeyPart.number.injEq, and_true] at h₂
  exact ⟨h₂.1.symm, Scalar.unsigned_eq_iff.1 h₂.2.symm⟩

end

variable {α : Type} [Scalar α] [LawfulComparison α] [LawfulZero α]
  {s₁ s₂ : Setting α}

open Slot.Alike (rel_of_eq rel_of_signed)

/-- Two requests that can meet in a cache and have the same key have values
that may stand for one another. -/
theorem value_alike_of_key_eq {pool : Pool α} (hpool : pool.Coherent) (h : s₁.SameFrame s₂)
    (known₁ : s₁.state.Known pool) (known₂ : s₂.state.Known pool) {k : Kind}
    {q₁ q₂ : Quantity α k} (hq₁ : q₁.Known pool) (hq₂ : q₂.Known pool)
    (hslot : q₁.SharesSlot q₂) {key : Key α} (h₁ : s₁.key q₁ = .ok key)
    (h₂ : s₂.key q₂ = .ok key) : Checked.Rel q₁.slot.Alike (s₁.value q₁) (s₂.value q₂) := by
  have hcurrent := hpool.point_eq _ known₁.current _ known₂.current
  have hpart := hpool.component_eq known₁.current known₂.current
  -- Both keys are written out and compared entry by entry.
  cases Quantity.twin_of_sharesSlot hslot <;>
    simp only [Setting.key, productKey, currentKey, Key.ofTags, Key.number, Key.tag, Key.norm,
      PerFamily.toList, Checked.bind_eq_ok, Checked.pure_eq_ok, List.foldl,
      List.nil_append, List.cons_append] at h₁ h₂
  case slack p₁ p₂ family =>
    obtain ⟨i₁, hi₁, rfl⟩ := h₁
    obtain ⟨i₂, hi₂, hkey⟩ := h₂
    obtain ⟨⟨hprimal, hmultiplier⟩, hmu⟩ := by simpa using hkey.symm
    have m₁ := known₁.iterateAt hi₁
    have m₂ := known₂.iterateAt hi₂
    exact rel_of_eq _ (value_slack_congr h hi₁ hi₂ (Scalar.unsigned_eq_iff.1 hmu) family
      (hpool.primal_eq m₁ m₂ _ hprimal)
      (hpool.component_eq m₁ m₂ (.multiplier family) hmultiplier))
  case objective p₁ p₂ =>
    obtain ⟨i₁, hi₁, rfl⟩ := h₁
    obtain ⟨i₂, hi₂, hkey⟩ := h₂
    have hx : i₁.x.tag = i₂.x.tag := by simpa using hkey.symm
    exact rel_of_eq _ (value_objective_congr h hi₁ hi₂
      (hpool.component_eq (known₁.iterateAt hi₁) (known₂.iterateAt hi₂) .x hx))
  case barrierObjective p₁ p₂ =>
    obtain ⟨i₁, hi₁, hkey₁⟩ := h₁
    obtain ⟨i₂, hi₂, hkey₂⟩ := h₂
    obtain ⟨htag, hmu⟩ := eq_of_wholeKey hkey₁ hkey₂
    exact rel_of_signed (.barrierObjective p₁) trivial (value_barrierObjective_alike h hi₁ hi₂ hmu
      (hpool.point_eq _ (known₁.iterateAt hi₁) _ (known₂.iterateAt hi₂) htag))
  case constraint p₁ p₂ group =>
    obtain ⟨i₁, hi₁, rfl⟩ := h₁
    obtain ⟨i₂, hi₂, hkey⟩ := h₂
    have hx : i₁.x.tag = i₂.x.tag := by simpa using hkey.symm
    exact rel_of_eq _ (value_constraint_congr h hi₁ hi₂
      (hpool.component_eq (known₁.iterateAt hi₁) (known₂.iterateAt hi₂) .x hx) group)
  case inequalityResidual p₁ p₂ =>
    obtain ⟨i₁, hi₁, rfl⟩ := h₁
    obtain ⟨i₂, hi₂, hkey⟩ := h₂
    obtain ⟨hx, hs⟩ : i₁.x.tag = i₂.x.tag ∧ i₁.s.tag = i₂.s.tag := by simpa using hkey.symm
    have m₁ := known₁.iterateAt hi₁
    have m₂ := known₂.iterateAt hi₂
    exact rel_of_eq _ (value_inequalityResidual_congr h hi₁ hi₂ (hpool.component_eq m₁ m₂ .x hx)
      (hpool.component_eq m₁ m₂ .s hs))
  case constraintViolation p₁ p₂ =>
    obtain ⟨i₁, hi₁, rfl⟩ := h₁
    obtain ⟨i₂, hi₂, hkey⟩ := h₂
    obtain ⟨⟨hx, hs⟩, -⟩ := by simpa using hkey.symm
    have m₁ := known₁.iterateAt hi₁
    have m₂ := known₂.iterateAt hi₂
    exact rel_of_eq _ (value_constraintViolation_congr h hi₁ hi₂
      (hpool.component_eq m₁ m₂ .x hx) (hpool.component_eq m₁ m₂ .s hs))
  case primalInfeasibility p₁ p₂ n₁ n₂ =>
    obtain ⟨i₁, hi₁, rfl⟩ := h₁
    obtain ⟨i₂, hi₂, hkey⟩ := h₂
    obtain ⟨⟨hx, hs⟩, rfl⟩ := by simpa using hkey.symm
    have m₁ := known₁.iterateAt hi₁
    have m₂ := known₂.iterateAt hi₂
    exact rel_of_eq _ (value_primalInfeasibility_congr h hi₁ hi₂
      (hpool.component_eq m₁ m₂ .x hx) (hpool.component_eq m₁ m₂ .s hs) n₁)
  case meanComplementarity p₁ p₂ =>
    obtain ⟨i₁, hi₁, hkey₁⟩ := h₁
    obtain ⟨i₂, hi₂, hkey₂⟩ := h₂
    obtain ⟨htag, hmu⟩ := eq_of_wholeKey hkey₁ hkey₂
    exact rel_of_eq _ (value_meanComplementarity_congr h hi₁ hi₂ hmu
      (hpool.point_eq _ (known₁.iterateAt hi₁) _ (known₂.iterateAt hi₂) htag))
  case jacobianTimes group v w =>
    obtain ⟨-, -, rfl⟩ := h₁
    obtain ⟨-, -, hkey⟩ := h₂
    obtain ⟨hx, hv⟩ := by simpa using hkey.symm
    obtain rfl := hpool.vector_eq v (hq₁ v (by simp [Quantity.vectors])) w
      (hq₂ w (by simp [Quantity.vectors])) hv
    exact rel_of_eq _ (value_jacobianTimes_congr h (hpart .x hx) group v)
  case jacobianTransposeTimes group v w =>
    obtain ⟨-, -, rfl⟩ := h₁
    obtain ⟨-, -, hkey⟩ := h₂
    obtain ⟨hx, hv⟩ := by simpa using hkey.symm
    obtain rfl := hpool.vector_eq v (hq₁ v (by simp [Quantity.vectors])) w
      (hq₂ w (by simp [Quantity.vectors])) hv
    exact rel_of_eq _ (value_jacobianTransposeTimes_congr h (hpart .x hx) group v)
  case dualInfeasibility n₁ n₂ =>
    subst h₁
    obtain ⟨htag, rfl⟩ := by simpa using h₂.symm
    exact rel_of_eq _ (value_dualInfeasibility_congr h (hcurrent htag) n₁)
  case complementarityNorm t₁ t₂ n₁ n₂ =>
    subst h₁
    obtain ⟨htag, hmu, htarget, rfl⟩ := by simpa using h₂.symm
    exact rel_of_eq _ (value_complementarityNorm_congr h (hcurrent htag)
      (Scalar.unsigned_eq_iff.1 hmu) (Scalar.unsigned_eq_iff.1 htarget) n₁)
  case primalStepLimit t₁ t₂ x₁ y₁ x₂ y₂ =>
    obtain ⟨u₁, hu₁, -, -, -, -, rfl⟩ := h₁
    obtain ⟨-, -, -, -, -, -, hkey⟩ := h₂
    obtain ⟨⟨htag, hx, hy⟩, hmu, htau⟩ := by simpa using hkey.symm
    obtain rfl := eq_of_ensureFraction ⟨u₁, hu₁⟩ (Scalar.unsigned_eq_iff.1 htau)
    obtain rfl := hpool.vector_eq x₁ (hq₁ x₁ (by simp [Quantity.vectors])) x₂
      (hq₂ x₂ (by simp [Quantity.vectors])) hx
    obtain rfl := hpool.vector_eq y₁ (hq₁ y₁ (by simp [Quantity.vectors])) y₂
      (hq₂ y₂ (by simp [Quantity.vectors])) hy
    exact rel_of_eq _ (value_primalStepLimit_congr h (hcurrent htag)
      (Scalar.unsigned_eq_iff.1 hmu) t₁ x₁ y₁)
  case dualStepLimit t₁ t₂ d₁ d₂ =>
    obtain ⟨u₁, hu₁, -, -, rfl⟩ := h₁
    obtain ⟨-, -, -, -, hkey⟩ := h₂
    obtain ⟨⟨htag, hsteps⟩, htau⟩ := by simpa using hkey.symm
    obtain rfl := eq_of_ensureFraction ⟨u₁, hu₁⟩ (Scalar.unsigned_eq_iff.1 htau)
    obtain rfl := hpool.perFamily_eq hq₁ hq₂ (by simpa [PerFamily.toList] using hsteps)
    exact rel_of_eq _ (value_dualStepLimit_congr h (hcurrent htag) t₁ d₁)
  case slackStepLimit t₁ t₂ d₁ d₂ =>
    obtain ⟨u₁, hu₁, -, -, rfl⟩ := h₁
    obtain ⟨-, -, -, -, hkey⟩ := h₂
    obtain ⟨⟨htag, hsteps⟩, hmu, htau⟩ := by simpa using hkey.symm
    obtain rfl := eq_of_ensureFraction ⟨u₁, hu₁⟩ (Scalar.unsigned_eq_iff.1 htau)
    obtain rfl := hpool.perFamily_eq hq₁ hq₂ (by simpa [PerFamily.toList] using hsteps)
    exact rel_of_eq _ (value_slackStepLimit_congr h (hcurrent htag)
      (Scalar.unsigned_eq_iff.1 hmu) t₁ d₁)
  case objectiveGradient =>
    subst h₁
    have hx : s₁.state.current.x.tag = s₂.state.current.x.tag := by simpa using h₂.symm
    exact rel_of_eq _ (value_objectiveGradient_congr h (hpart .x hx))
  case jacobian group =>
    subst h₁
    have hx : s₁.state.current.x.tag = s₂.state.current.x.tag := by simpa using h₂.symm
    exact rel_of_eq _ (value_jacobian_congr h (hpart .x hx) group)
  case hessian =>
    subst h₁
    obtain ⟨hx, hyC, hyD⟩ := by simpa using h₂.symm
    exact rel_of_eq _ (value_hessian_congr h (hpart .x hx) (hpart .yC hyC) (hpart .yD hyD))
  case lagrangianGradient block =>
    subst h₁
    have htag : s₁.state.current.tag = s₂.state.current.tag := by simpa using h₂.symm
    exact rel_of_eq _ (value_lagrangianGradient_congr h (hcurrent htag) block)
  case directionalDerivative =>
    obtain ⟨d₁, hd₁, rfl⟩ := h₁
    obtain ⟨d₂, hd₂, hkey⟩ := h₂
    obtain ⟨⟨htag, hdirection⟩, hmu⟩ := by simpa using hkey.symm
    have hsame := hpool.point_eq _ (known₁.requireDirection hd₁) _ (known₂.requireDirection hd₂)
      hdirection
    exact rel_of_signed .directionalDerivative trivial (value_directionalDerivative_alike h
      (hcurrent htag) (Scalar.unsigned_eq_iff.1 hmu) (by rw [hd₁, hd₂, hsame]))
  -- The keys that are left consist of the current point and `mu`.
  all_goals obtain ⟨htag, hmu⟩ := eq_of_wholeKey h₁ h₂
  case barrierGradient block =>
    exact rel_of_signed (.barrierGradient block) trivial
      (value_barrierGradient_alike h (hcurrent htag) hmu block)
  case complementarity family =>
    exact rel_of_eq _ (value_complementarity_congr h (hcurrent htag) hmu family)
  case relaxedComplementarity family =>
    exact rel_of_signed (.relaxedComplementarity family) trivial
      (value_relaxedComplementarity_alike h (hcurrent htag) hmu family)
  case centralityMeasure =>
    exact rel_of_eq _ (value_centralityMeasure_congr h (hcurrent htag) hmu)
  case problemError => exact rel_of_eq _ (value_problemError_congr h (hcurrent htag) hmu)
  case barrierError => exact rel_of_eq _ (value_barrierError_congr h (hcurrent htag) hmu)
  case meanError => exact rel_of_eq _ (value_meanError_congr h (hcurrent htag) hmu)
  case meanBarrierError => exact rel_of_eq _ (value_meanBarrierError_congr h (hcurrent htag) hmu)
  case primalDualScaling block =>
    exact rel_of_eq _ (value_primalDualScaling_congr h (hcurrent htag) hmu block)

end Setting

end InteriorPoint
