import Mathlib.Data.Finset.Card
import InteriorPoint.Proofs.Quantity.Requests
import InteriorPoint.Proofs.Scalar.Comparison

/-!
# `InteriorPoint.Proofs.Quantity.Demands`: what is asked for in one state

As long as the state stays the same, few results are asked for over and
over. A quantity that takes neither a vector nor a fraction from its
caller (`Quantity.Plain`) has one key for each of its arguments, and these
are a point, which has a cache of its own, a norm, of which there are
three, or the number that complementarity is measured against. Nothing
limits the numbers, so they are counted: together with the norm they make
a pair (`Quantity.pair?`).

A formula asks for plain quantities and for products with the multipliers
of the current point (`Setting.Standing`). Of the pairs it asks for at
most one, and only if it is the formula of an error measure
(`Setting.innerPair?`, `formula_standing`).

`length_keys_le` draws the conclusion. With no more than four pairs, the
keys that any one cache is asked for are no more than it has room for.
-/

set_option autoImplicit false

namespace InteriorPoint

variable {α : Type}

/-- The quantity takes no vector and no fraction from its caller. -/
def Quantity.Plain : {k : Kind} → Quantity α k → Prop
  | _, jacobianTimes _ _ | _, jacobianTransposeTimes _ _ | _, primalStepLimit _ _ _
  | _, dualStepLimit _ _ | _, slackStepLimit _ _ => False
  | _, _ => True

/-- Every cache has room for a result. -/
theorem Slot.capacity_pos {k : Kind} (slot : Slot k) : 0 < slot.capacity := by
  cases slot <;> simp [capacity]

variable [Scalar α]

/-- The number and the norm of a complementarity measure. -/
def Quantity.pair? : {k : Kind} → Quantity α k → Option (α × Norm)
  | _, complementarityNorm target norm => some (Scalar.unsigned target, norm)
  | _, _ => none

namespace Setting

/-- The pair for which an error measure asks for complementarity. -/
def innerPair? (setting : Setting α) : {k : Kind} → Quantity α k → Option (α × Norm)
  | _, .problemError => some (Scalar.unsigned 0, .max)
  | _, .barrierError => some (Scalar.unsigned setting.mu, .max)
  | _, .meanError => some (Scalar.unsigned 0, .one)
  | _, .meanBarrierError => some (Scalar.unsigned setting.mu, .one)
  | _, _ => none

/-- A plain quantity, or a product with multipliers of the current
point. -/
def Standing (setting : Setting α) : {k : Kind} → Quantity α k → Prop
  | _, .jacobianTransposeTimes _ v =>
    v = setting.state.current.yC ∨ v = setting.state.current.yD
  | _, quantity => quantity.Plain

/-- What the formula of a quantity asks for. -/
structure IsPart (setting : Setting α) {k k' : Kind} (quantity : Quantity α k)
    (part : Quantity α k') : Prop where
  standing : setting.Standing part
  /-- No error measure is computed from another one. -/
  inner : setting.innerPair? part = none
  pair : ∀ pair, part.pair? = some pair → setting.innerPair? quantity = some pair

end Setting

namespace Quantity

/-! ### Formulas -/

/-- What is in the table of parts is a standing request, and the formula of
an error measure hands on its own pair only. -/
theorem isPart_of_mem_parts (setting : Setting α) {k : Kind} (quantity : Quantity α k) :
    ∀ part ∈ quantity.parts setting, setting.IsPart quantity part.2 := by
  -- Written out, what is asked of a part can be decided from the list of parts.
  have hpart : ∀ part : Sigma (Quantity α), setting.IsPart quantity part.2
      ↔ setting.Standing part.2 ∧ setting.innerPair? part.2 = none
        ∧ ∀ pair, part.2.pair? = some pair → setting.innerPair? quantity = some pair :=
    fun _ => ⟨fun ⟨hstanding, hinner, hpair⟩ => ⟨hstanding, hinner, hpair⟩,
      fun ⟨hstanding, hinner, hpair⟩ => ⟨hstanding, hinner, hpair⟩⟩
  simp only [hpart]
  cases quantity
  case barrierGradient block =>
    cases block <;> simp [parts, Setting.Standing, Plain, Setting.innerPair?, pair?]
  case lagrangianGradient block =>
    cases block <;> simp [parts, Setting.Standing, Plain, Setting.innerPair?, pair?]
  case meanComplementarity point =>
    by_cases hcount : setting.dims.boundCount = 0 <;>
      simp [parts, hcount, Setting.Standing, Plain, Setting.innerPair?, pair?]
  all_goals simp [parts, errorParts, Setting.Standing, Plain, Setting.innerPair?, pair?]

/-- A formula asks for standing requests only, and reports no miss of a
cache. -/
theorem formula_standing (setting : Setting α) {k : Kind} (quantity : Quantity α k) :
    (quantity.formula setting).Within (setting.IsPart quantity)
      (fun event => ∀ name key, event ≠ .missed name key) fun _ => True := by
  refine (quantity.formula_within setting).mono
    (fun part hpart => isPart_of_mem_parts setting quantity ⟨_, part⟩ hpart) ?_ fun _ h => h
  rintro _ hreports name key rfl
  cases hreports

end Quantity

/-! ### Keys -/

namespace Setting

/-- In this state the key is asked for in the cache, given the pairs for
which complementarity is measured. -/
def Wanted (setting : Setting α) (pairs : Finset (α × Norm)) {k : Kind} (slot : Slot k)
    (key : Key α) : Prop :=
  ∃ quantity : Quantity α k, setting.Standing quantity
    ∧ (∀ pair, quantity.pair? = some pair → pair ∈ pairs)
    ∧ quantity.slot = slot ∧ setting.key quantity = .ok key

section
variable {setting : Setting α} {pairs : Finset (α × Norm)} {key : Key α}

/-- Products are asked for with one of two multipliers. -/
theorem Wanted.of_jacobianTransposeTimes {group : Group}
    (h : setting.Wanted pairs (.jacobianTransposeTimes group) key) :
    key ∈ ({.ofTags [setting.state.current.x.tag, setting.state.current.yC.tag],
      .ofTags [setting.state.current.x.tag, setting.state.current.yD.tag]} : Finset (Key α)) := by
  obtain ⟨q, hstanding, -, hslot, hq⟩ := h
  cases q <;> cases hslot
  simp only [Setting.key, productKey, Checked.bind_eq_ok, Checked.pure_eq_ok] at hq
  obtain ⟨_, -, rfl⟩ := hq
  rcases hstanding with rfl | rfl <;> simp

/-- The primal infeasibility of a point is asked for in one of the three
norms. -/
theorem Wanted.of_primalInfeasibility {point : Point}
    (h : setting.Wanted pairs (.primalInfeasibility point) key) :
    ∃ iterate norm, setting.state.iterateAt point = .ok iterate
      ∧ (Key.ofTags [iterate.x.tag, iterate.s.tag]).norm norm = key := by
  obtain ⟨q, -, -, hslot, hq⟩ := h
  cases q <;> cases hslot
  simp only [Setting.key, Checked.bind_eq_ok, Checked.pure_eq_ok] at hq
  obtain ⟨iterate, hat, rfl⟩ := hq
  exact ⟨iterate, _, hat, rfl⟩

/-- The dual infeasibility is asked for in one of the three norms. -/
theorem Wanted.of_dualInfeasibility (h : setting.Wanted pairs .dualInfeasibility key) :
    ∃ norm, setting.currentKey.norm norm = key := by
  obtain ⟨q, -, -, hslot, hq⟩ := h
  cases q <;> cases hslot
  cases hq
  exact ⟨_, rfl⟩

/-- Complementarity is asked for with one of the given pairs. -/
theorem Wanted.of_complementarityNorm (h : setting.Wanted pairs .complementarityNorm key) :
    ∃ pair ∈ pairs,
      (setting.currentKey |>.number setting.mu |>.number pair.1 |>.norm pair.2) = key := by
  obtain ⟨q, -, hpair, hslot, hq⟩ := h
  cases q <;> cases hslot
  cases hq
  refine ⟨_, hpair _ rfl, ?_⟩
  simp only [Key.number, Scalar.unsigned_unsigned]

end

/-- Keys that a norm distinguishes are at most three. -/
theorem card_le_of_norm {keys : Finset (Key α)} {f : Norm → Key α}
    (h : ∀ key ∈ keys, ∃ norm, f norm = key) : keys.card ≤ 3 := by
  have hsub : keys ⊆ ({.one, .two, .max} : Finset Norm).image f := by
    intro key hmem
    obtain ⟨norm, rfl⟩ := h key hmem
    apply Finset.mem_image_of_mem
    cases norm <;> decide
  exact (Finset.card_le_card hsub).trans Finset.card_image_le

/-- A cache has room for all keys that are asked for. -/
theorem card_keys_le {setting : Setting α} {pairs : Finset (α × Norm)} (hpairs : pairs.card ≤ 4)
    {k : Kind} (slot : Slot k) {keys : Finset (Key α)}
    (hkeys : ∀ key ∈ keys, setting.Wanted pairs slot key) : keys.card ≤ slot.capacity := by
  cases slot
  case jacobianTransposeTimes group =>
    exact (Finset.card_le_card fun key hmem =>
      (hkeys key hmem).of_jacobianTransposeTimes).trans Finset.card_le_two
  case primalInfeasibility point =>
    cases hat : setting.state.iterateAt point with
    | error error =>
        -- Without such a point nothing can be asked for.
        refine card_le_of_norm (f := fun _ => {}) fun key hmem => ?_
        obtain ⟨iterate, _, hok, -⟩ := (hkeys key hmem).of_primalInfeasibility
        rw [hat] at hok
        cases hok
    | ok iterate =>
        let keyOf : Norm → Key α := (Key.ofTags [iterate.x.tag, iterate.s.tag]).norm
        refine card_le_of_norm (f := keyOf) fun key hmem => ?_
        obtain ⟨_, norm, hok, hkey⟩ := (hkeys key hmem).of_primalInfeasibility
        rw [hat] at hok
        cases hok
        exact ⟨norm, hkey⟩
  case dualInfeasibility =>
    exact card_le_of_norm fun key hmem => (hkeys key hmem).of_dualInfeasibility
  case complementarityNorm =>
    have hsub : keys ⊆ pairs.image fun pair =>
        setting.currentKey |>.number setting.mu |>.number pair.1 |>.norm pair.2 :=
      fun key hmem => Finset.mem_image.2 (hkeys key hmem).of_complementarityNorm
    exact (Finset.card_le_card hsub).trans (Finset.card_image_le.trans hpairs)
  -- The other caches are asked for a single key, if they are asked for any.
  all_goals
    refine (Finset.card_le_one.2 fun key hkey key' hkey' => ?_).trans (Slot.capacity_pos _)
    obtain ⟨q, hstanding, -, hslot, hq⟩ := hkeys key hkey
    obtain ⟨q', -, -, hslot', hq'⟩ := hkeys key' hkey'
    cases q <;> cases hslot
    cases q' <;> cases hslot'
    first | exact hstanding.elim | exact Except.ok.inj (hq.symm.trans hq')

end Setting

end InteriorPoint
