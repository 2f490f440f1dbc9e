import InteriorPoint.Proofs.Checked
import InteriorPoint.Proofs.Quantity.Value

/-!
# `InteriorPoint.Proofs.Quantity.Jacobians`: values of Jacobians and of their products

A Jacobian has a value if it has the shape that is checked, and the value
is what the problem returns at the current point
(`Setting.value_jacobian_eq_ok`). A product has a value if moreover the
vector has the right size, and the value is then that of the elementary
product.
-/

set_option autoImplicit false

namespace InteriorPoint.Setting

variable {α : Type}

/-- The Jacobian of a group of constraints at the current point. -/
def currentJacobian (setting : Setting α) (group : Group) : Operator α :=
  setting.problem.callbacks.jacobian group setting.state.current.x.entries

/-- The Jacobian has a row for each constraint of the group and a column
for each variable. -/
structure JacobianShaped (setting : Setting α) (group : Group) : Prop where
  rows : setting.groupSize group = (setting.currentJacobian group).rowCount
  columns : setting.dims.x = (setting.currentJacobian group).columns

variable [Scalar α] {setting : Setting α} {group : Group}

/-- A Jacobian has a value if it has the shape that is checked, and then
it is that of the problem. -/
theorem value_jacobian_eq_ok {J : Operator α} :
    setting.value (.jacobian group) = .ok J
      ↔ setting.JacobianShaped group ∧ setting.currentJacobian group = J := by
  rw [value_eq]
  simp only [Quantity.formula, eval_bind, eval_tell, eval_ensure, eval_pure, key, pure_bind,
    Checked.check_bind_eq_ok, ensureSize_eq_ok, Checked.pure_eq_ok]
  constructor
  · rintro ⟨hrows, hcolumns, hvalue⟩
    exact ⟨⟨hrows, hcolumns⟩, hvalue⟩
  · rintro ⟨⟨hrows, hcolumns⟩, hvalue⟩
    exact ⟨hrows, hcolumns, hvalue⟩

/-- A product has a value if the vector fits as well. -/
theorem value_jacobianTimes_eq_ok {v : TaggedVector α} {result : List α} :
    setting.value (.jacobianTimes group v) = .ok result
      ↔ setting.dims.x = v.size ∧ setting.JacobianShaped group
        ∧ (setting.currentJacobian group).mulVec v.entries = .ok result := by
  rw [value_eq]
  simp only [Quantity.formula, eval_bind, eval_value, eval_lift, key, productKey,
    Checked.bind_eq_ok, Checked.pure_eq_ok]
  constructor
  · rintro ⟨_, ⟨_, hsize, -⟩, J, hjacobian, hproduct⟩
    obtain ⟨hshape, rfl⟩ := value_jacobian_eq_ok.1 hjacobian
    exact ⟨ensureSize_eq_ok.1 hsize, hshape, hproduct⟩
  · -- The Jacobian is asked for first, and it is there.
    rintro ⟨hsize, hshape, hproduct⟩
    have hjacobian := value_jacobian_eq_ok.2 ⟨hshape, rfl⟩
    exact ⟨_, ⟨(), ensureSize_eq_ok.2 hsize, rfl⟩, _, hjacobian, hproduct⟩

/-- So has a transposed product. -/
theorem value_jacobianTransposeTimes_eq_ok {v : TaggedVector α} {result : List α} :
    setting.value (.jacobianTransposeTimes group v) = .ok result
      ↔ setting.groupSize group = v.size ∧ setting.JacobianShaped group
        ∧ (setting.currentJacobian group).transposeMulVec v.entries = .ok result := by
  rw [value_eq]
  simp only [Quantity.formula, eval_bind, eval_value, eval_lift, key, productKey,
    Checked.bind_eq_ok, Checked.pure_eq_ok]
  constructor
  · rintro ⟨_, ⟨_, hsize, -⟩, J, hjacobian, hproduct⟩
    -- The Jacobian that is asked for has passed the check of its shape.
    obtain ⟨hshape, rfl⟩ := value_jacobian_eq_ok.1 hjacobian
    exact ⟨ensureSize_eq_ok.1 hsize, hshape, hproduct⟩
  · rintro ⟨hsize, hshape, hproduct⟩
    have hjacobian := value_jacobian_eq_ok.2 ⟨hshape, rfl⟩
    exact ⟨_, ⟨(), ensureSize_eq_ok.2 hsize, rfl⟩, _, hjacobian, hproduct⟩

end InteriorPoint.Setting
