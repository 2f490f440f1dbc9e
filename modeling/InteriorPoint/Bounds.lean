import InteriorPoint.Bounds.Family
import InteriorPoint.Bounds.Selection

/-!
# `InteriorPoint.Bounds`: bounds on a block of variables

Only finite bounds are stored. `Limits` holds those of one side, each
with the coordinate it belongs to, and `Bounds` holds both sides of one
space. The bounds can be given side by side (`Bounds.ofSides`) or as
two full arrays in which an infinite entry means "no bound"
(`Bounds.ofArrays`). Only the second way compares a lower with an upper
bound.
-/

set_option autoImplicit false

namespace InteriorPoint

/-- The bounds on one side, one value per selected coordinate. -/
structure Limits (α : Type) where
  /-- The bounded coordinates. -/
  selection : Selection
  /-- Their bounds, in the same order. -/
  values : List α
  /-- One bound per coordinate. -/
  aligned : values.length = selection.size

namespace Limits

variable {α : Type}

/-- The given values as bounds on the selected coordinates. -/
def ofValues (selection : Selection) (values : List α) : Checked α (Limits α) :=
  if aligned : values.length = selection.size then
    .ok { selection, values, aligned }
  else .error (.dimensionMismatch "bound values" selection.size values.length)

/-- No bounds in a space of dimension `dim`. -/
def none (dim : Nat) : Limits α where
  selection := .empty dim
  values := []
  aligned := rfl

/-- The number of bounds. -/
def size (limits : Limits α) : Nat :=
  limits.values.length

variable [Scalar α]

/-- The finite entries of an array, with their positions. -/
def finiteEntries (array : List α) : List (α × Nat) :=
  array.zipIdx.filter fun entry => Scalar.isFinite entry.1

/-- The bounds given by the finite entries of an array. -/
def ofArray (array : List α) : Limits α where
  selection :=
    { dim := array.length
      indices := (finiteEntries array).map Prod.snd
      increasing := by
        -- All positions increase, and leaving some out keeps their order.
        have positions : (array.zipIdx.map Prod.snd).Pairwise (· < ·) := by
          rw [List.zipIdx_map_snd]
          exact List.pairwise_lt_range'
        exact List.Pairwise.sublist (List.filter_sublist.map Prod.snd) positions
      bounded := by
        intro i member
        obtain ⟨entry, kept, rfl⟩ := List.mem_map.1 member
        have := List.snd_lt_of_mem_zipIdx (List.mem_filter.1 kept).1
        omega }
  values := (finiteEntries array).map Prod.fst
  aligned := by simp [Selection.size]

end Limits

/-- Which bounds a single coordinate has. -/
inductive BoundKind where
  | none
  | lowerOnly
  | upperOnly
  | both
deriving DecidableEq, Repr

namespace BoundKind

/-- The kind of a coordinate that is or is not bounded below and
above. -/
def ofFlags : Bool → Bool → BoundKind
  | true, true => both
  | true, false => lowerOnly
  | false, true => upperOnly
  | false, false => none

/-- Coordinates with a bound on exactly one side are damped. -/
def isDamped : BoundKind → Bool
  | lowerOnly | upperOnly => true
  | none | both => false

end BoundKind

/-- Lower and upper bounds on the coordinates of one space. -/
structure Bounds (α : Type) where
  lower : Limits α
  upper : Limits α
  /-- Both sides bound coordinates of the same space. -/
  same_dim : lower.selection.dim = upper.selection.dim

namespace Bounds

variable {α : Type}

/-- The dimension of the bounded space. -/
def dim (bounds : Bounds α) : Nat :=
  bounds.lower.selection.dim

/-- The bounds on one side. -/
def side (bounds : Bounds α) : Side → Limits α
  | .lower => bounds.lower
  | .upper => bounds.upper

/-- Lower and upper bounds of one space. -/
def ofSides (lower upper : Limits α) : Checked α (Bounds α) :=
  if same_dim : lower.selection.dim = upper.selection.dim then
    .ok { lower, upper, same_dim }
  else
    .error (.dimensionMismatch "upper bound space" lower.selection.dim upper.selection.dim)

/-- No bounds in a space of dimension `dim`. -/
def free (dim : Nat) : Bounds α where
  lower := .none dim
  upper := .none dim
  same_dim := rfl

/-- The kind of every coordinate. -/
def kinds (bounds : Bounds α) : List BoundKind :=
  List.zipWith BoundKind.ofFlags bounds.lower.selection.mask bounds.upper.selection.mask

variable [Scalar α]

/-- Refuses the first coordinate, counted from `index`, whose lower
limit exceeds its upper limit. -/
def ensureOrdered : Nat → List α → List α → Checked α Unit
  | index, l :: lower, u :: upper =>
    if u < l then .error (.crossedBounds index l u) else ensureOrdered (index + 1) lower upper
  | _, _, _ => .ok ()

/-- The bounds given by two full arrays. An entry that is not finite
means "no bound". -/
def ofArrays (lower upper : List α) : Checked α (Bounds α) :=
  if same_dim : lower.length = upper.length then do
    ensureOrdered 0 lower upper
    return { lower := .ofArray lower, upper := .ofArray upper, same_dim }
  else .error (.dimensionMismatch "upper limits" lower.length upper.length)

end Bounds

end InteriorPoint
