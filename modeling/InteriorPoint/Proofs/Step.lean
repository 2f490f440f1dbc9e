import InteriorPoint.Proofs.Linear.Exact
import InteriorPoint.Proofs.State

/-!
# `InteriorPoint.Proofs.Step`: where a step ends, in exact arithmetic

A step moves each component of a point by a multiple of the direction,
the primal variables by one step length and all multipliers by the other
(`Iterate.component_of_takeStep`). A component whose step length is zero
is kept and not computed anew. In exact arithmetic it has the entries of
the sum as well, so there is no exception.
-/

set_option autoImplicit false

namespace InteriorPoint

variable {K : Type} [Field K] [LinearOrder K] [ExactFunctions K]

namespace Iterate

/-- A component that has moved is the sum, also if it is the same vector
as before. -/
theorem entries_of_moveComponent {alpha : K} {base step v : TaggedVector K}
    (hsize : step.size = base.size) {supply supply' : Supply}
    (hrun : (moveComponent alpha base step).run supply = (.ok v, supply')) :
    v.entries = List.zipWith (· + ·) base.entries (step.entries.map (· * alpha)) := by
  have hlength : step.entries.length = base.entries.length := hsize
  rw [entries_eq_of_moveComponent hrun]
  split
  · -- A multiple of zero adds nothing.
    rename_i hzero
    refine List.ext_getElem (by simp [hlength]) fun n _ _ => ?_
    simp [Scalar.isZero_iff.1 hzero]
  · rfl

variable {dims : Dimensions} {base direction iterate : Iterate K} {primal dual : K}
  {supply supply' : Supply} (hbase : base.Fits dims) (hdirection : direction.Fits dims)
  (hstep : (base.takeStep primal dual direction).run supply = (.ok iterate, supply'))
include hbase hdirection hstep

/-- Each component of the point that is reached is a sum. -/
theorem component_of_takeStep (part : Component) :
    (iterate.component part).entries = List.zipWith (· + ·) (base.component part).entries
      ((direction.component part).entries.map (· * part.stepLength primal dual)) := by
  obtain ⟨_, _, hmove⟩ := (moveComponent_of_takeStep hstep).2 part
  exact entries_of_moveComponent ((hdirection part).symm.trans (hbase part)) hmove

/-- The primal variables move by the primal step length. -/
theorem entries_of_takeStep (block : Block) :
    (iterate.primal block).entries = List.zipWith (· + ·) (base.primal block).entries
      ((direction.primal block).entries.map (· * primal)) := by
  cases block with
  | x => exact component_of_takeStep hbase hdirection hstep .x
  | s => exact component_of_takeStep hbase hdirection hstep .s

end Iterate

end InteriorPoint
