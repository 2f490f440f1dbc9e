import InteriorPoint.Proofs.Bounds.Arrays

/-!
# `InteriorPoint.Proofs.Bounds.Box`: which bounds are a box

Bounds are a box if all of them are finite and no lower bound lies above the upper
bound of its coordinate. Two arrays always give a box, whatever their entries are:
what is not finite is not kept, and crossed limits are refused.

Bounds that are given side by side are accepted by their shape alone. Their values
are kept as they are, so they are a box only if they were given as one. A `Source`
is any way to make bounds, and `Source.accepted_and_isBox_iff` says for each of
them what is accepted and when the result is a box. Every value of `Bounds` has a
source (`exists_source`), so the type itself does not promise a box.
-/

set_option autoImplicit false

namespace InteriorPoint

variable {α : Type}

/-! ### Making the bounds of one side -/

namespace Limits

/-- What the bounds of one side are made of. -/
inductive Source (α : Type) where
  /-- One value for each of the given coordinates. -/
  | given (dim : Nat) (indices : List Nat) (values : List α)
  /-- No bounds. -/
  | none (dim : Nat)

namespace Source

/-- The dimension of the space. -/
def dim : Source α → Nat
  | given dim _ _ => dim
  | none dim => dim

/-- The coordinates to be bounded. -/
def indices : Source α → List Nat
  | given _ indices _ => indices
  | none _ => []

/-- The bounds, in the same order. -/
def values : Source α → List α
  | given _ _ values => values
  | none _ => []

/-- The bounds, if the coordinates are a selection and the values fit it. -/
def build : Source α → Checked α (Limits α)
  | given dim indices values => do
    let selection ← Selection.ofIndices dim indices
    ofValues selection values
  | none dim => .ok (.none dim)

/-- The coordinates increase within the space, and there is one value for each. -/
structure Fits (source : Source α) : Prop where
  increasing : source.indices.Pairwise (· < ·)
  bounded : ∀ i ∈ source.indices, i < source.dim
  aligned : source.values.length = source.indices.length

/-- A coordinate and a value are given at the same place. -/
def Gives (source : Source α) (i : Nat) (value : α) : Prop :=
  ∃ k : Nat, source.indices[k]? = some i ∧ source.values[k]? = some value

/-- Whatever is built holds the data of its source unchanged. -/
theorem build_eq_ok_iff {source : Source α} {limits : Limits α} :
    source.build = .ok limits
      ↔ limits.selection.dim = source.dim ∧ limits.selection.indices = source.indices
        ∧ limits.values = source.values := by
  cases source with
  | given dim indices values =>
      show (Selection.ofIndices dim indices >>= _) = _ ↔ _
      simp only [Checked.bind_eq_ok, Selection.ofIndices_eq_ok_iff, ofValues_eq_ok_iff]
      constructor
      · rintro ⟨selection, ⟨hdim, hindices⟩, rfl, hvalues⟩
        exact ⟨hdim, hindices, hvalues⟩
      · rintro ⟨hdim, hindices, hvalues⟩
        exact ⟨limits.selection, ⟨hdim, hindices⟩, rfl, hvalues⟩
  | none dim =>
      show Except.ok (Limits.none dim) = .ok limits ↔ _
      constructor
      · rintro ⟨⟩
        exact ⟨rfl, rfl, rfl⟩
      · rintro ⟨hdim, hindices, hvalues⟩
        -- The invariants are proofs, so the data determines the limits.
        obtain ⟨⟨_, _, _, _⟩, _, _⟩ := limits
        cases hdim
        cases hindices
        cases hvalues
        rfl

/-- The bound of a coordinate is the value given with it. -/
theorem bound?_of_build {source : Source α} {limits : Limits α}
    (hbuild : source.build = .ok limits) (i : Nat) (bound : α) :
    limits.bound? i = some bound ↔ source.Gives i bound := by
  obtain ⟨-, hindices, hvalues⟩ := build_eq_ok_iff.1 hbuild
  rw [bound?_eq_some_iff, hindices, hvalues]
  rfl

/-- The bounds of a side are made if the coordinates are a selection with
one value each. -/
theorem exists_build_iff {source : Source α} :
    (∃ limits, source.build = .ok limits) ↔ source.Fits := by
  constructor
  · rintro ⟨limits, hbuild⟩
    -- What was built carries the proofs that its parts fit.
    obtain ⟨hdim, hindices, hvalues⟩ := build_eq_ok_iff.1 hbuild
    refine ⟨?_, ?_, ?_⟩
    · rw [← hindices]
      exact limits.selection.increasing
    · rw [← hindices, ← hdim]
      exact limits.selection.bounded
    · rw [← hindices, ← hvalues]
      exact limits.aligned
  · intro hfits
    exact ⟨⟨⟨source.dim, source.indices, hfits.increasing, hfits.bounded⟩, source.values,
      hfits.aligned⟩, build_eq_ok_iff.2 ⟨rfl, rfl, rfl⟩⟩

end Source

end Limits

/-! ### Making bounds -/

namespace Bounds

/-- What bounds are made of. -/
inductive Source (α : Type) where
  /-- One source for each side. -/
  | sides (lower upper : Limits.Source α)
  /-- Two arrays, in which an entry that is not finite means "no bound". -/
  | arrays (lower upper : List α)
  /-- No bounds. -/
  | free (dim : Nat)

/-- Finite bounds, of which the lower ones are at most the upper ones. -/
structure IsBox [Scalar α] (bounds : Bounds α) : Prop where
  lower_finite : ∀ l ∈ bounds.lower.values, Scalar.isFinite l = true
  upper_finite : ∀ u ∈ bounds.upper.values, Scalar.isFinite u = true
  ordered : ∀ i l u, bounds.lower.bound? i = some l → bounds.upper.bound? i = some u → l ≤ u

namespace Source

variable [Scalar α]

/-- The bounds made of a source. -/
def build : Source α → Checked α (Bounds α)
  | sides lower upper => do
    let lower ← lower.build
    let upper ← upper.build
    ofSides lower upper
  | arrays lower upper => ofArrays lower upper
  | free dim => .ok (.free dim)

/-- What is checked of a source. Of two arrays, the entries are compared; of two
sides, only the shape is read. -/
def Accepted : Source α → Prop
  | sides lower upper => lower.Fits ∧ upper.Fits ∧ lower.dim = upper.dim
  | arrays lower upper => lower.length = upper.length ∧ ∀ i l u, ¬ CrossedAt lower upper i l u
  | free _ => True

/-- What makes the result a box. Of two arrays, nothing is left to ask. -/
def DescribesBox : Source α → Prop
  | sides lower upper =>
    (∀ l ∈ lower.values, Scalar.isFinite l = true) ∧ (∀ u ∈ upper.values, Scalar.isFinite u = true)
      ∧ ∀ i l u, lower.Gives i l → upper.Gives i u → l ≤ u
  | arrays _ _ | free _ => True

end Source

/-! ### What is accepted -/

/-- Sides go together if they bound the same space. Nothing else is compared. -/
theorem ofSides_eq_ok_iff {lower upper : Limits α} {bounds : Bounds α} :
    ofSides lower upper = .ok bounds ↔ bounds.lower = lower ∧ bounds.upper = upper := by
  constructor
  · intro hok
    unfold ofSides at hok
    split at hok
    · cases hok
      exact ⟨rfl, rfl⟩
    · cases hok
  · rintro ⟨rfl, rfl⟩
    exact dif_pos bounds.same_dim

namespace Source

variable [Scalar α]

/-- Two sources give bounds if each of them gives its side. -/
theorem build_sides_eq_ok_iff {lower upper : Limits.Source α} {bounds : Bounds α} :
    (sides lower upper).build = .ok bounds
      ↔ lower.build = .ok bounds.lower ∧ upper.build = .ok bounds.upper := by
  show (lower.build >>= fun lower => upper.build >>= fun upper => ofSides lower upper) = _ ↔ _
  simp only [Checked.bind_eq_ok, ofSides_eq_ok_iff]
  constructor
  · rintro ⟨_, hlower, _, hupper, rfl, rfl⟩
    exact ⟨hlower, hupper⟩
  · rintro ⟨hlower, hupper⟩
    exact ⟨_, hlower, _, hupper, rfl, rfl⟩

/-- Bounds are made if the check of their source passes. -/
theorem exists_build_iff {source : Source α} :
    (∃ bounds, source.build = .ok bounds) ↔ source.Accepted := by
  cases source with
  | sides lower upper =>
      constructor
      · rintro ⟨bounds, hbuild⟩
        obtain ⟨hlower, hupper⟩ := build_sides_eq_ok_iff.1 hbuild
        have hlowerDim := (Limits.Source.build_eq_ok_iff.1 hlower).1
        have hupperDim := (Limits.Source.build_eq_ok_iff.1 hupper).1
        refine ⟨Limits.Source.exists_build_iff.1 ⟨_, hlower⟩,
          Limits.Source.exists_build_iff.1 ⟨_, hupper⟩, ?_⟩
        rw [← hlowerDim, ← hupperDim]
        exact bounds.same_dim
      · rintro ⟨hlowerFits, hupperFits, hdim⟩
        obtain ⟨lowerLimits, hlower⟩ := Limits.Source.exists_build_iff.2 hlowerFits
        obtain ⟨upperLimits, hupper⟩ := Limits.Source.exists_build_iff.2 hupperFits
        have hlowerDim := (Limits.Source.build_eq_ok_iff.1 hlower).1
        have hupperDim := (Limits.Source.build_eq_ok_iff.1 hupper).1
        exact ⟨⟨lowerLimits, upperLimits, hlowerDim.trans (hdim.trans hupperDim.symm)⟩,
          build_sides_eq_ok_iff.2 ⟨hlower, hupper⟩⟩
  | arrays lower upper =>
      constructor
      · rintro ⟨bounds, hbuild⟩
        obtain ⟨hlength, hordered, -⟩ := ofArrays_eq_ok_iff.1 hbuild
        exact ⟨hlength, hordered⟩
      · rintro ⟨hlength, hordered⟩
        exact ⟨⟨.ofArray lower, .ofArray upper, hlength⟩,
          ofArrays_eq_ok_iff.2 ⟨hlength, hordered, rfl, rfl⟩⟩
  | free dim => exact ⟨fun _ => trivial, fun _ => ⟨_, rfl⟩⟩

/-- Any bounds can be made, side by side. -/
theorem exists_source (bounds : Bounds α) : ∃ source : Source α, source.build = .ok bounds := by
  have hgiven : ∀ limits : Limits α, (Limits.Source.given limits.selection.dim
      limits.selection.indices limits.values).build = .ok limits :=
    fun limits => Limits.Source.build_eq_ok_iff.2 ⟨rfl, rfl, rfl⟩
  exact ⟨.sides _ _, build_sides_eq_ok_iff.2 ⟨hgiven bounds.lower, hgiven bounds.upper⟩⟩

end Source

/-! ### What is a box -/

/-- No bounds are a box, the whole space. -/
theorem isBox_free [Scalar α] (dim : Nat) : (free dim : Bounds α).IsBox where
  lower_finite _ hl := absurd hl List.not_mem_nil
  upper_finite _ hu := absurd hu List.not_mem_nil
  ordered i l _ hl := by
    obtain ⟨k, hk, -⟩ := Limits.bound?_eq_some_iff.1 hl
    cases hk

/-- The values of two sides are kept as they were given, so whether they
are a box is up to them. -/
theorem isBox_sides_iff [Scalar α] {lower upper : Limits.Source α} {bounds : Bounds α}
    (hbuild : (Source.sides lower upper).build = .ok bounds) :
    bounds.IsBox ↔ (Source.sides lower upper).DescribesBox := by
  obtain ⟨hlower, hupper⟩ := Source.build_sides_eq_ok_iff.1 hbuild
  obtain ⟨-, -, hlowerValues⟩ := Limits.Source.build_eq_ok_iff.1 hlower
  obtain ⟨-, -, hupperValues⟩ := Limits.Source.build_eq_ok_iff.1 hupper
  -- Also coordinate by coordinate, nothing is changed.
  have hlowerBound := Limits.Source.bound?_of_build hlower
  have hupperBound := Limits.Source.bound?_of_build hupper
  constructor
  · intro hbox
    refine ⟨hlowerValues ▸ hbox.lower_finite, hupperValues ▸ hbox.upper_finite, ?_⟩
    intro i l u hl hu
    exact hbox.ordered i l u ((hlowerBound i l).2 hl) ((hupperBound i u).2 hu)
  · intro hdescribes
    obtain ⟨hlowerFinite, hupperFinite, hordered⟩ := hdescribes
    refine ⟨hlowerValues ▸ hlowerFinite, hupperValues ▸ hupperFinite, ?_⟩
    intro i l u hl hu
    exact hordered i l u ((hlowerBound i l).1 hl) ((hupperBound i u).1 hu)

section
variable [Scalar α] [LawfulComparison α] [LawfulFinite α]

/-- Two arrays give a box, even with undefined or infinite entries. -/
theorem isBox_of_ofArrays {lower upper : List α} {bounds : Bounds α}
    (hok : ofArrays lower upper = .ok bounds) : bounds.IsBox := by
  obtain ⟨-, hordered, hlower, hupper⟩ := ofArrays_eq_ok_iff.1 hok
  have hfinite : ∀ (array : List α) (a : α), a ∈ (Limits.ofArray array).values →
      Scalar.isFinite a = true := by
    intro array a ha
    obtain ⟨entry, hentry, rfl⟩ := List.mem_map.1 ha
    exact (List.mem_filter.1 hentry).2
  refine ⟨?_, ?_, ?_⟩
  · rw [hlower]
    exact hfinite lower
  · rw [hupper]
    exact hfinite upper
  · intro i l u hl hu
    rw [hlower, Limits.bound?_ofArray, Option.filter_eq_some_iff] at hl
    rw [hupper, Limits.bound?_ofArray, Option.filter_eq_some_iff] at hu
    -- Both limits are finite, so that one is not above the other means it is below.
    have hnotCrossed : ¬ u < l := fun hul => hordered i l u ⟨hl.1, hu.1, hul⟩
    exact Scalar.le_of_not_lt (LawfulFinite.isNumber_of_isFinite hu.2)
      (LawfulFinite.isNumber_of_isFinite hl.2) hnotCrossed

namespace Source

/-- Every way to make bounds. A source is accepted if and only if the check of its
kind passes, which for two sides does not read a single value. What is made of
two arrays or of nothing is a box. What is made of two sides is a box if and only
if the values were finite and not crossed when they were given. -/
theorem accepted_and_isBox_iff (source : Source α) :
    ((∃ bounds, source.build = .ok bounds) ↔ source.Accepted)
      ∧ ∀ bounds, source.build = .ok bounds → (bounds.IsBox ↔ source.DescribesBox) := by
  refine ⟨exists_build_iff, ?_⟩
  intro bounds hbuild
  cases source with
  | sides lower upper => exact isBox_sides_iff hbuild
  | arrays lower upper => exact iff_of_true (isBox_of_ofArrays hbuild) trivial
  | free dim =>
      obtain rfl : .free dim = bounds := Except.ok.inj hbuild
      exact iff_of_true (isBox_free dim) trivial

end Source

end

/-- A lower bound of one above an upper bound of zero is refused as two arrays and
accepted side by side, and so is a lower bound at infinity accepted. -/
theorem Source.accepted_and_isBox_iff_crossed :
    let crossed : Source Binary64 := .sides (.given 1 [0] [1]) (.given 1 [0] [0])
    let infinite : Source Binary64 := .sides (.given 1 [0] [.infinity]) (.none 1)
    (∃ bounds, crossed.build = .ok bounds ∧ ¬ bounds.IsBox)
      ∧ (∃ bounds, infinite.build = .ok bounds ∧ ¬ bounds.IsBox)
      ∧ (arrays [1] [(0 : Binary64)]).build = .error (.crossedBounds 0 1 0) := by
  intro crossed infinite
  have hfits : ∀ value : Binary64, (Limits.Source.given 1 [0] [value]).Fits := fun value =>
    { increasing := List.pairwise_singleton _ _
      bounded := by simp [Limits.Source.indices, Limits.Source.dim]
      aligned := rfl }
  have hempty : (Limits.Source.none 1 : Limits.Source Binary64).Fits :=
    { increasing := .nil
      bounded := by simp [Limits.Source.indices]
      aligned := rfl }
  refine ⟨?_, ?_, rfl⟩
  · obtain ⟨haccepted, hbox⟩ := accepted_and_isBox_iff crossed
    obtain ⟨bounds, hbuild⟩ := haccepted.2 ⟨hfits 1, hfits 0, rfl⟩
    refine ⟨bounds, hbuild, ?_⟩
    intro hisBox
    obtain ⟨-, -, hordered⟩ := (hbox bounds hbuild).1 hisBox
    -- At index zero the lower bound is one and the upper bound is zero.
    have hnotLe : ¬ (1 : Binary64) ≤ 0 := by decide +kernel
    exact hnotLe (hordered 0 1 0 ⟨0, rfl, rfl⟩ ⟨0, rfl, rfl⟩)
  · obtain ⟨haccepted, hbox⟩ := accepted_and_isBox_iff infinite
    obtain ⟨bounds, hbuild⟩ := haccepted.2 ⟨hfits .infinity, hempty, rfl⟩
    refine ⟨bounds, hbuild, ?_⟩
    intro hisBox
    obtain ⟨hfinite, -, -⟩ := (hbox bounds hbuild).1 hisBox
    -- The other one has an infinite value among its lower bounds.
    have hinfinite : ¬ Scalar.isFinite Binary64.infinity = true := by decide +kernel
    exact hinfinite (hfinite .infinity List.mem_cons_self)

end Bounds

end InteriorPoint
