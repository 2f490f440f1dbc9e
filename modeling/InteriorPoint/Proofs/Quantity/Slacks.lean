import InteriorPoint.Proofs.Linear.Exact
import InteriorPoint.Proofs.Quantity.Sizes
import InteriorPoint.Proofs.Quantity.Value
import InteriorPoint.Proofs.Slack

/-!
# `InteriorPoint.Proofs.Quantity.Slacks`: slacks, distances and variables

In a sound setting every slack has a value, and entry by entry it is the
distance to the bound, lifted where it is too small (`Sound.gives_slack`).

The distances change with the variables of the block, the lower ones in
the same direction and the upper ones in the opposite one, which is the
sign in `Side.sign`. `Limits.rates` is how the distances on a side change
along a step of the variables, and they change in proportion to its
length (`Limits.distances_step`).
-/

set_option autoImplicit false

namespace InteriorPoint

/-! ### Values -/

section
variable {α : Type} [Scalar α] [LawfulComparison α]

/-- Every slack has a value, which is the corrected distance to the bound
in every entry. -/
theorem Setting.Sound.gives_slack {setting : Setting α} (h : setting.Sound) {point : Point}
    {iterate : Iterate α} (hat : setting.state.iterateAt point = .ok iterate) (family : Family) :
    Checked.Gives (setting.value (.slack point family)) fun (slack : List α) =>
      slack.length = setting.dims.bounds.get family
        ∧ List.Forall₂ (Slack.Corrects setting.mu)
          (setting.distances family (iterate.primal family.block).entries) slack := by
  obtain ⟨⟨slack, count⟩, hsafeguard, hlength, -⟩ := h.safeguarded hat family
  have hvalue : setting.value (.slack point family) = .ok slack := by
    rw [value_eq, h.formula_slack hat]
    simp [key, hat, hsafeguard]
  exact .of_eq hvalue ⟨hlength, Slack.corrects_of_safeguard hsafeguard⟩

omit [LawfulComparison α] in
/-- The complementarity products of a family. -/
theorem Setting.value_complementarity {setting : Setting α} {family : Family} {slack : List α}
    (hslack : setting.value (.slack .current family) = .ok slack)
    (hlength : slack.length = (setting.state.current.multipliers.get family).entries.length) :
    setting.value (.complementarity family) = .ok (List.zipWith (· * ·) slack
      (setting.state.current.multipliers.get family).entries) := by
  rw [value_eq]
  simp [key, Quantity.formula, hslack, Linear.entrywiseMul, Linear.pairwise, hlength]

end

variable {K : Type} [Field K] [LinearOrder K] [ExactFunctions K]

/-- The correction only ever raises an entry. -/
theorem Slack.Corrects.distance_le {mu distance slack : K} (h : Corrects mu distance slack) :
    distance ≤ slack := by
  rcases le_total (least mu) distance with hlarge | hsmall
  · exact (h.eq_of_least_le hlarge).ge
  · exact hsmall.trans h.least_le

/-! ### Distances and variables -/

/-- How the distances on a side change with the variables. -/
def Side.sign {K : Type} [Field K] : Side → K
  | .lower => 1
  | .upper => -1

/-- How the distances on a side change along a step of the full space. -/
def Limits.rates (limits : Limits K) (side : Side) (step : List K) : List K :=
  (limits.selection.indices.map (step.getD · 0)).map (· * side.sign)

/-- The distances change as the selected variables do, up to the sign. -/
theorem Limits.distances_sub (limits : Limits K) (side : Side) {full full' : List K}
    (h : full'.length = full.length) :
    List.zipWith (· - ·) (limits.distances side full') (limits.distances side full)
      = limits.rates side (List.zipWith (· - ·) full' full) := by
  have hsize : limits.values.length = limits.selection.indices.length := limits.aligned
  unfold rates
  -- Entry by entry, where the value of the bound cancels.
  refine List.ext_getElem ?_ fun n hn hn' => ?_
  · cases side <;> simp [distances, hsize]
  · cases side <;> simp [distances, Linear.getD_sub h, Side.sign]

/-- There is one rate per bound. -/
theorem Limits.length_rates (limits : Limits K) (side : Side) (step : List K) :
    (limits.rates side step).length = limits.selection.size := by
  simp [rates, Selection.size]

/-- On the lower side the distances change as the variables do. -/
theorem Limits.rates_lower (limits : Limits K) (step : List K) :
    limits.rates .lower step = limits.selection.indices.map (step.getD · 0) := by
  simp [rates, Side.sign]

/-- On the upper side they change the other way. -/
theorem Limits.rates_upper (limits : Limits K) (step : List K) :
    limits.rates .upper step = Linear.neg (limits.selection.indices.map (step.getD · 0)) := by
  simp [rates, Side.sign, Linear.neg]

/-- The distances after a step of length `a`. -/
theorem Limits.distances_step (limits : Limits K) (side : Side) {full step : List K}
    (h : step.length = full.length) (a : K) :
    limits.distances side (List.zipWith (· + ·) full (step.map (· * a)))
      = List.zipWith (· + ·) (limits.distances side full)
        ((limits.rates side step).map (· * a)) := by
  have hsize : limits.values.length = limits.selection.indices.length := limits.aligned
  have hlength : full.length = (step.map (· * a)).length := by rw [List.length_map, h]
  have hentry : ∀ i, (List.zipWith (· + ·) full (step.map (· * a))).getD i 0
      = full.getD i 0 + step.getD i 0 * a := fun i => by
    rw [Linear.getD_add hlength, Linear.getD_map_mul]
  -- Entry by entry again, for each of the sides.
  refine List.ext_getElem ?_ fun n hn hn' => ?_
  · cases side <;> simp [distances, rates, hsize]
  · cases side <;> simp only [distances, rates, Side.sign, List.getElem_zipWith, List.getElem_map,
      hentry] <;> ring

end InteriorPoint
