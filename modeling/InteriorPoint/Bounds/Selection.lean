import InteriorPoint.Linear.Vector

/-!
# `InteriorPoint.Bounds.Selection`: the coordinates that carry a bound

A `Selection` picks some coordinates of a full space, in increasing
order. It is the 0/1 matrix `P` that embeds the bounded subspace:
`select` applies `Pᵀ`, `scatter` applies `P`, and `scatterAdd` adds a
multiple of `P v` to a vector.

That the indices increase and lie in range is part of the type;
`Selection.ofIndices` checks it and names the first index that breaks
it.
-/

set_option autoImplicit false

namespace InteriorPoint

/-- Strictly increasing coordinates of a space of dimension `dim`. -/
structure Selection where
  /-- Dimension of the full space. -/
  dim : Nat
  /-- The selected coordinates. -/
  indices : List Nat
  /-- The coordinates increase. -/
  increasing : indices.Pairwise (· < ·)
  /-- The coordinates belong to the space. -/
  bounded : ∀ i ∈ indices, i < dim

namespace Selection

/-- The first index that is out of range or does not exceed its
predecessor, where `floor` is the least value the next index may
take. -/
def firstFault (dim : Nat) : Nat → List Nat → Option Nat
  | _, [] => none
  | floor, i :: rest =>
    if i < dim ∧ floor ≤ i then firstFault dim (i + 1) rest else some i

/-- Indices without a fault lie within the space, above the floor. -/
theorem bounded_of_firstFault {dim : Nat} {indices : List Nat} :
    ∀ {floor : Nat}, firstFault dim floor indices = none → ∀ i ∈ indices, floor ≤ i ∧ i < dim := by
  induction indices with
  | nil => simp
  | cons head rest ih =>
    intro floor clean i member
    simp only [firstFault] at clean
    split at clean
    · -- The head passed its own test; the rest was tested from above it.
      rcases List.mem_cons.1 member with rfl | member
      · omega
      · have := ih clean i member
        omega
    · cases clean

/-- Indices without a fault increase strictly. -/
theorem increasing_of_firstFault {dim : Nat} {indices : List Nat} :
    ∀ {floor : Nat}, firstFault dim floor indices = none → indices.Pairwise (· < ·) := by
  induction indices with
  | nil => simp
  | cons head rest ih =>
    intro floor clean
    simp only [firstFault] at clean
    split at clean
    · -- Everything behind the head was tested with a floor above it.
      refine List.pairwise_cons.2 ⟨fun i member => ?_, ih clean⟩
      have := bounded_of_firstFault clean i member
      omega
    · cases clean

/-- The selection of the given coordinates. An index that is out of
range or out of order is refused, the first one by name. -/
def ofIndices {α : Type} (dim : Nat) (indices : List Nat) : Checked α Selection :=
  match clean : firstFault dim 0 indices with
  | none =>
    .ok { dim, indices
          increasing := increasing_of_firstFault clean
          bounded := fun i member => (bounded_of_firstFault clean i member).2 }
  | some index => .error (.invalidSelection "bound selection" index dim)

/-- The selection of no coordinate. -/
def empty (dim : Nat) : Selection where
  dim := dim
  indices := []
  increasing := .nil
  bounded := by simp

/-- The number of selected coordinates. -/
def size (selection : Selection) : Nat :=
  selection.indices.length

/-- For each coordinate of the full space, whether it is selected. -/
def mask (selection : Selection) : List Bool :=
  (List.range selection.dim).map fun i => selection.indices.contains i

variable {α : Type} [Scalar α]

/-- The selected entries of a vector of the full space. -/
def select (selection : Selection) (full : List α) : Checked α (List α) :=
  selection.indices.mapM fun i =>
    match full[i]? with
    | some entry => .ok entry
    | none => .error .misaligned

/-- Adds `alpha` times the successive entries of a vector to the given
coordinates of `target`. Surplus entries are left out; too few are
refused. -/
def addAt (alpha : α) : List Nat → List α → List α → Checked α (List α)
  | [], _, target => .ok target
  | _ :: _, [], _ => .error .misaligned
  | i :: indices, v :: entries, target =>
    match target[i]? with
    | some entry => addAt alpha indices entries (target.set i (entry + alpha * v))
    | none => .error .misaligned

/-- `target + alpha * P v`. -/
def scatterAdd (selection : Selection) (alpha : α) (v target : List α) : Checked α (List α) :=
  addAt alpha selection.indices v target

/-- `P v`: the entries of `v` at the selected coordinates and zeros
elsewhere. -/
def scatter (selection : Selection) (v : List α) : Checked α (List α) :=
  selection.scatterAdd 1 v (Linear.zeros selection.dim)

end Selection

end InteriorPoint
