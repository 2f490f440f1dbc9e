import InteriorPoint.Bounds.Damping
import InteriorPoint.Proofs.Bounds.Position
import InteriorPoint.Proofs.Engine.Answers

/-!
# `InteriorPoint.Proofs.Bounds.Damping`: damped bounds and damped coordinates

Whether a bound is damped is decided twice. An indicator decides it for each
bound of a family, by looking for its coordinate on the opposite side.
`Bounds.kinds` decides it for each coordinate of the space, from what both sides
select. `dampingIndicators_agree` says that both decide alike: entry by entry,
after the indicators were scattered into the space, and in number.

Each of the two is first brought into the same terms, which coordinates are
selected by either side (`kinds_eq_map_range`, `getElem?_oneSidedIndicator`). The
numbers are then compared over the space, where a coordinate that is damped is
selected by one side and not by the other (`countP_add_countP_opposite`).

Scattering computes `0 + 1 * a`. That this is `a` for both values of an
indicator is `LawfulIndicator`, which holds in exact arithmetic and in binary64.
-/

set_option autoImplicit false

namespace InteriorPoint

/-- Zero and one differ, and both survive being scattered. -/
class LawfulIndicator (α : Type) [Scalar α] : Prop where
  scatter_zero : (0 : α) + 1 * 0 = 0
  scatter_one : (0 : α) + 1 * 1 = 1
  zero_ne_one : (0 : α) ≠ 1

/-- In exact arithmetic these are the laws of zero and one. -/
instance {K : Type} [Field K] [LinearOrder K] [ExactFunctions K] : LawfulIndicator K where
  scatter_zero := by rw [mul_zero, add_zero]
  scatter_one := by rw [mul_one, zero_add]
  zero_ne_one := zero_ne_one

/-- In binary64 both sums are exact. -/
instance : LawfulIndicator Binary64 where
  scatter_zero := by decide +kernel
  scatter_one := by decide +kernel
  zero_ne_one := by decide +kernel

variable {α : Type}

/-- The opposite side. -/
def Side.opposite : Side → Side
  | .lower => .upper
  | .upper => .lower

/-- The bounds of a block, out of those on `x` and on the inequalities. -/
def Bounds.ofBlock (xBounds dBounds : Bounds α) : Block → Bounds α
  | .x => xBounds
  | .s => dBounds

/-! ### Kinds -/

/-- A coordinate is damped if one side bounds it and the other does not. -/
theorem BoundKind.isDamped_ofFlags (lower upper : Bool) :
    (ofFlags lower upper).isDamped = (lower != upper) := by
  cases lower <;> cases upper <;> rfl

namespace Bounds

variable (bounds : Bounds α)

/-- Both sides bound the same space. -/
theorem dim_side (side : Side) : (bounds.side side).selection.dim = bounds.dim := by
  cases side with
  | lower => rfl
  | upper => exact bounds.same_dim.symm

/-- The kind of a coordinate is decided by whether either list has it. -/
theorem kinds_eq_map_range : bounds.kinds = (List.range bounds.dim).map fun i =>
    BoundKind.ofFlags (decide (i ∈ bounds.lower.selection.indices))
      (decide (i ∈ bounds.upper.selection.indices)) := by
  unfold kinds Selection.mask
  rw [← bounds.same_dim, List.zipWith_map, List.zipWith_self]
  simp only [List.contains_eq_mem]
  rfl

/-- A coordinate that one side bounds is damped if the opposite side does not
bound it. -/
theorem exists_kind_of_mem {side : Side} {i : Nat}
    (hi : i ∈ (bounds.side side).selection.indices) :
    ∃ kind, bounds.kinds[i]? = some kind
      ∧ kind.isDamped = !decide (i ∈ (bounds.side side.opposite).selection.indices) := by
  have hdim : i < bounds.dim := by
    rw [← bounds.dim_side side]
    exact (bounds.side side).selection.bounded i hi
  have hkind : bounds.kinds[i]? = some (BoundKind.ofFlags
      (decide (i ∈ bounds.lower.selection.indices))
      (decide (i ∈ bounds.upper.selection.indices))) := by
    rw [kinds_eq_map_range, List.getElem?_map, List.getElem?_range hdim]
    rfl
  refine ⟨_, hkind, ?_⟩
  rw [BoundKind.isDamped_ofFlags]
  -- One of the two flags is set because the side has the coordinate.
  cases side with
  | lower =>
      have hlower : i ∈ bounds.lower.selection.indices := hi
      show _ = !decide (i ∈ bounds.upper.selection.indices)
      simp [hlower]
  | upper =>
      have hupper : i ∈ bounds.upper.selection.indices := hi
      show _ = !decide (i ∈ bounds.lower.selection.indices)
      simp [hupper]

end Bounds

/-! ### Indicators -/

section
variable [Scalar α] (own opposite : Selection)

/-- The entry of a bound is zero if the opposite side bounds its
coordinate as well. -/
theorem getElem?_oneSidedIndicator {k i : Nat} (hk : own.indices[k]? = some i) :
    (oneSidedIndicator own opposite : List α)[k]?
      = some (if i ∈ opposite.indices then 0 else 1) := by
  rw [oneSidedIndicator, List.getElem?_map, hk]
  rfl

variable [LawfulIndicator α]

/-- Scattered into the space, an indicator is one at the coordinates that only
its own side bounds, and zero at all others. -/
theorem gives_scatter_oneSidedIndicator :
    Checked.Gives (own.scatter (oneSidedIndicator own opposite : List α)) fun full =>
      full.length = own.dim
        ∧ ∀ i, full.getD i 0 = if i ∈ own.indices ∧ i ∉ opposite.indices then 1 else 0 := by
  refine (own.gives_scatterAdd_position 1 (List.length_map _) List.length_replicate).mono
    fun full ⟨hlength, hentry⟩ => ⟨hlength, ?_⟩
  intro i
  have hzero : (List.replicate own.dim (0 : α)).getD i 0 = 0 := by
    rw [List.getD_eq_getElem?_getD, List.getElem?_replicate]
    split <;> rfl
  rw [hentry i, hzero]
  -- A coordinate has a place in the list or it is not selected.
  cases hposition : own.position? i with
  | none =>
      have hout := Selection.position?_eq_none_iff.1 hposition
      simp [hout]
  | some k =>
      have hk := Selection.position?_eq_some_iff.1 hposition
      have hmem : i ∈ own.indices := List.mem_of_getElem? hk
      show 0 + 1 * (oneSidedIndicator own opposite : List α).getD k 0 = _
      rw [List.getD_eq_getElem?_getD, getElem?_oneSidedIndicator own opposite hk]
      by_cases hopposite : i ∈ opposite.indices
      · simp [hmem, hopposite, LawfulIndicator.scatter_zero]
      · simp [hmem, hopposite, LawfulIndicator.scatter_one]

/-- The ones of an indicator, counted over the space. -/
theorem count_one_oneSidedIndicator :
    (oneSidedIndicator own opposite : List α).count 1
      = (List.range own.dim).countP fun i =>
        !decide (i ∈ opposite.indices) && decide (i ∈ own.indices) := by
  rw [← own.countP_indices fun i => !decide (i ∈ opposite.indices), oneSidedIndicator,
    List.count_eq_countP, List.countP_map]
  refine List.countP_congr fun i _ => ?_
  have hne : (0 : α) ≠ 1 := LawfulIndicator.zero_ne_one
  by_cases hopposite : i ∈ opposite.indices <;> simp [hopposite, hne]

end

/-- What only the first of two lists of flags has and what only the second has
is together what they differ in. -/
theorem countP_add_countP_opposite (lower upper : Nat → Bool) (coordinates : List Nat) :
    coordinates.countP (fun i => !upper i && lower i)
        + coordinates.countP (fun i => !lower i && upper i)
      = coordinates.countP fun i => lower i != upper i := by
  induction coordinates with
  | nil => rfl
  | cons i coordinates ih =>
      simp only [List.countP_cons]
      cases lower i <;> cases upper i <;> simp <;> omega

/-! ### Agreement -/

/-- The indicator of a family compares its own side with the opposite one.
-/
theorem get_dampingIndicators [Scalar α] (xBounds dBounds : Bounds α) (block : Block)
    (side : Side) :
    (dampingIndicators xBounds dBounds).get ⟨block, side⟩
      = oneSidedIndicator ((Bounds.ofBlock xBounds dBounds block).side side).selection
        ((Bounds.ofBlock xBounds dBounds block).side side.opposite).selection := by
  cases block <;> cases side <;> rfl

/-- The damping indicators agree with the kinds of the coordinates, for any
bounds on both blocks. An indicator has one entry per bound of its family, and
the `k`-th entry is one if the `k`-th bounded coordinate is damped and zero if
not. Both indicators of a block can be scattered, and no coordinate is marked by
both of them. Together they have as many ones as there are damped
coordinates. -/
theorem dampingIndicators_agree [Scalar α] [LawfulIndicator α] (xBounds dBounds : Bounds α)
    (block : Block) :
    let bounds := Bounds.ofBlock xBounds dBounds block
    let indicator := fun side => (dampingIndicators xBounds dBounds).get ⟨block, side⟩
    (∀ side, (indicator side).length = (bounds.side side).size)
      ∧ (∀ (side : Side) (k i : Nat), (bounds.side side).selection.indices[k]? = some i →
        ∃ kind : BoundKind, bounds.kinds[i]? = some kind
          ∧ (indicator side)[k]? = some (if kind.isDamped then 1 else 0))
      ∧ (∃ full : Side → List α,
        (∀ side, (bounds.side side).selection.scatter (indicator side) = .ok (full side))
          ∧ (∀ side, (full side).length = bounds.dim)
          ∧ ∀ i, (full .lower).getD i 0 = 0 ∨ (full .upper).getD i 0 = 0)
      ∧ (indicator .lower).count 1 + (indicator .upper).count 1
        = bounds.kinds.countP BoundKind.isDamped := by
  intro bounds indicator
  have hindicator : ∀ side, indicator side = oneSidedIndicator (bounds.side side).selection
      (bounds.side side.opposite).selection := get_dampingIndicators xBounds dBounds block
  refine ⟨?_, ?_, ?_, ?_⟩
  · intro side
    rw [hindicator, oneSidedIndicator, List.length_map]
    exact (bounds.side side).aligned.symm
  · intro side k i hk
    obtain ⟨kind, hkind, hdamped⟩ := bounds.exists_kind_of_mem (List.mem_of_getElem? hk)
    refine ⟨kind, hkind, ?_⟩
    rw [hindicator, getElem?_oneSidedIndicator _ _ hk, hdamped]
    by_cases hopposite : i ∈ (bounds.side side.opposite).selection.indices <;> simp [hopposite]
  · choose full hscatter hlength hentry using fun side =>
      gives_scatter_oneSidedIndicator (α := α) (bounds.side side).selection
        (bounds.side side.opposite).selection
    refine ⟨full, ?_, ?_, ?_⟩
    · intro side
      rw [hindicator]
      exact hscatter side
    · intro side
      exact (hlength side).trans (bounds.dim_side side)
    · intro i
      rw [hentry .lower, hentry .upper]
      -- What the lower side marks, the upper side does not bound.
      by_cases hupper : i ∈ (bounds.side .upper).selection.indices
      · left
        simp [Side.opposite, hupper]
      · right
        simp [hupper]
  · rw [hindicator, hindicator, count_one_oneSidedIndicator, count_one_oneSidedIndicator,
      bounds.dim_side, bounds.dim_side, bounds.kinds_eq_map_range, List.countP_map]
    -- Damped are the coordinates where the two flags differ.
    have hdamped : BoundKind.isDamped ∘ (fun i => BoundKind.ofFlags
          (decide (i ∈ bounds.lower.selection.indices))
          (decide (i ∈ bounds.upper.selection.indices)))
        = fun i => decide (i ∈ bounds.lower.selection.indices)
          != decide (i ∈ bounds.upper.selection.indices) :=
      funext fun i => BoundKind.isDamped_ofFlags _ _
    rw [hdamped]
    exact countP_add_countP_opposite _ _ _

/-- Two variables in binary64, both bounded above and the second one below as
well. -/
def Corner.binaryBounds : Bounds Binary64 where
  lower := ⟨second, [-1], rfl⟩
  upper := ⟨both, [1, 1], rfl⟩
  same_dim := rfl

/-- Only the first of the two variables is damped, and it is by its upper bound. -/
theorem dampingIndicators_agree_corner :
    let indicators := dampingIndicators Corner.binaryBounds (.free 0)
    Corner.binaryBounds.kinds = [.upperOnly, .both]
      ∧ indicators.xLower = [0] ∧ indicators.xUpper = [1, 0]
      ∧ (∃ kind : BoundKind, Corner.binaryBounds.kinds[1]? = some kind
        ∧ indicators.xLower[0]? = some (if kind.isDamped then 1 else 0))
      ∧ indicators.xLower.count 1 + indicators.xUpper.count 1
        = Corner.binaryBounds.kinds.countP BoundKind.isDamped := by
  obtain ⟨-, hentry, -, hcount⟩ := dampingIndicators_agree Corner.binaryBounds (.free 0) .x
  exact ⟨rfl, by decide +kernel, by decide +kernel, hentry .lower 0 1 rfl, hcount⟩

end InteriorPoint
