import Mathlib.Tactic.Ring
import InteriorPoint.Proofs.Bounds.Arrays
import InteriorPoint.Proofs.Engine.Answers
import InteriorPoint.Proofs.Quantity.Coordinates

/-!
# `InteriorPoint.Proofs.Bounds.Isometry`: a selection embeds the bounded subspace

A selection stands for the 0/1 matrix `P` that embeds the vectors over the
selected coordinates into the full space. `ofIndices_embeds` says which lists of
indices give one, and that every `P` so obtained has the laws of an isometric
embedding (`Embeds`). This is exact arithmetic.

The laws come from two descriptions of `P v`. By `embed_eq_contribution` its
entry at a coordinate is the one of `v` at the place of this coordinate, or zero.
By `gives_scatterAdd_dot` its dot product with a vector is that of `v` with the
selected entries. Neither would hold of a list with repetitions. The check
compares neighbours only, and that nothing is repeated anywhere is part of
`Selectable`.

Adding at coordinates commutes with adding at any others, also at the same ones
or where one of the two is refused. That is an induction over single additions
(`addAt_comm_of_addEntry`) and needs no law of `P`.
-/

set_option autoImplicit false

namespace InteriorPoint

namespace Selection

/-! ### Which lists are accepted -/

/-- The indices increase strictly, and all of them belong to the space. -/
structure Selectable (dim : Nat) (indices : List Nat) : Prop where
  increasing : indices.Pairwise (· < ·)
  bounded : ∀ i ∈ indices, i < dim

/-- The check finds no fault if and only if the list can be a selection.
-/
theorem firstFault_eq_none_iff {dim : Nat} {indices : List Nat} :
    firstFault dim 0 indices = none ↔ Selectable dim indices := by
  constructor
  · intro hclean
    exact ⟨increasing_of_firstFault hclean, fun i hi => (bounded_of_firstFault hclean i hi).2⟩
  · intro h
    exact firstFault_eq_none h.increasing fun i hi => ⟨i.zero_le, h.bounded i hi⟩

/-- The check stops at the index that spoils what stood before it. -/
theorem firstFault_eq_some_iff {dim floor index : Nat} {indices : List Nat} :
    firstFault dim floor indices = some index
      ↔ ∃ accepted rest, indices = accepted ++ index :: rest
        ∧ firstFault dim floor accepted = none
        ∧ firstFault dim floor (accepted ++ [index]) ≠ none := by
  induction indices generalizing floor with
  | nil => simp [firstFault]
  | cons head indices ih =>
      by_cases hpass : head < dim ∧ floor ≤ head
      · -- The head passes, so it is one of the accepted indices.
        rw [firstFault, if_pos hpass, ih]
        constructor
        · rintro ⟨accepted, rest, rfl, hclean, hfault⟩
          refine ⟨head :: accepted, rest, rfl, ?_, ?_⟩
          · rwa [firstFault, if_pos hpass]
          · rwa [List.cons_append, firstFault, if_pos hpass]
        · rintro ⟨_ | ⟨first, accepted⟩, rest, hsplit, hclean, hfault⟩
          · cases hsplit
            simp [firstFault, hpass] at hfault
          · cases hsplit
            rw [firstFault, if_pos hpass] at hclean
            rw [List.cons_append, firstFault, if_pos hpass] at hfault
            exact ⟨accepted, rest, rfl, hclean, hfault⟩
      · -- The head itself is the fault, with nothing accepted before it.
        rw [firstFault, if_neg hpass]
        constructor
        · rintro ⟨⟩
          exact ⟨[], indices, rfl, rfl, by simp [firstFault, hpass]⟩
        · rintro ⟨_ | ⟨first, accepted⟩, rest, hsplit, hclean, -⟩
          · cases hsplit
            rfl
          · cases hsplit
            rw [firstFault, if_neg hpass] at hclean
            cases hclean

/-- A refusal names the first index that is out of range or out of order. -/
theorem ofIndices_eq_error_iff {α : Type} {dim : Nat} {indices : List Nat} {error : Error α} :
    ofIndices dim indices = .error error
      ↔ ∃ accepted index rest, indices = accepted ++ index :: rest ∧ Selectable dim accepted
        ∧ ¬ Selectable dim (accepted ++ [index])
        ∧ error = .invalidSelection "bound selection" index dim := by
  -- The report names the index at which the search stops.
  have hfault : ofIndices dim indices = .error error
      ↔ ∃ index, firstFault dim 0 indices = some index
        ∧ error = .invalidSelection "bound selection" index dim := by
    unfold ofIndices
    split
    · rename_i hclean
      simp [hclean]
    · rename_i index hfault
      simp [hfault, eq_comm]
  simp only [hfault, firstFault_eq_some_iff, Ne, firstFault_eq_none_iff]
  constructor
  · rintro ⟨index, ⟨accepted, rest, hsplit, hclean, hspoils⟩, herror⟩
    exact ⟨accepted, index, rest, hsplit, hclean, hspoils, herror⟩
  · rintro ⟨accepted, index, rest, hsplit, hclean, hspoils, herror⟩
    exact ⟨index, ⟨accepted, rest, hsplit, hclean, hspoils⟩, herror⟩

/-! ### The mask -/

/-- The flag of a coordinate says whether it is selected. -/
theorem getElem?_mask (selection : Selection) {i : Nat} (hi : i < selection.dim) :
    selection.mask[i]? = some (decide (i ∈ selection.indices)) := by
  simp [mask, hi]

/-- One flag is set for each selected coordinate. -/
theorem count_true_mask (selection : Selection) : selection.mask.count true = selection.size := by
  have hall : selection.indices.countP (fun _ => true) = selection.size := by
    simp [size]
  rw [← hall, countP_indices, mask, List.count_eq_countP, List.countP_map]
  refine List.countP_congr fun i _ => ?_
  simp

/-! ### Adding at coordinates -/

section
variable {α : Type} [Scalar α]

/-- Adds to a single entry. -/
def addEntry (i : Nat) (amount : α) (target : List α) : Checked α (List α) :=
  match target[i]? with
  | some entry => .ok (target.set i (entry + amount))
  | none => .error .misaligned

/-- A row of additions is a single one, followed by the others. -/
theorem addAt_cons (alpha : α) (i : Nat) (indices : List Nat) (entry : α) (v target : List α) :
    addAt alpha (i :: indices) (entry :: v) target
      = addEntry i (alpha * entry) target >>= addAt alpha indices v := by
  unfold addEntry
  rw [addAt]
  cases target[i]? <;> rfl

/-- An operation on vectors that is refused only for operands that do not fit. -/
def Aligning (change : List α → Checked α (List α)) : Prop :=
  ∀ target, (∃ result, change target = .ok result) ∨ change target = .error .misaligned

/-- A single addition is refused only at a place that does not exist. -/
theorem aligning_addEntry (i : Nat) (amount : α) : Aligning (addEntry i amount) := by
  intro target
  unfold addEntry
  cases target[i]? <;> simp

/-- So is a row of them, or one with too few entries. -/
theorem aligning_addAt (alpha : α) (indices : List Nat) (v : List α) :
    Aligning (addAt alpha indices v) := by
  induction indices generalizing v with
  | nil => exact fun target => Or.inl ⟨target, rfl⟩
  | cons i indices ih =>
      intro target
      cases v with
      | nil => exact Or.inr rfl
      | cons entry v =>
          rw [addAt_cons]
          -- The first entry either is added or lies outside, and then nothing more happens.
          rcases aligning_addEntry i (alpha * entry) target with ⟨result, hresult⟩ | hmisaligned
          · rw [hresult]
            exact ih v result
          · rw [hmisaligned]
            exact Or.inr rfl

/-- What commutes with every single addition commutes with a row of them. -/
theorem addAt_comm_of_addEntry {change : List α → Checked α (List α)} (haligning : Aligning change)
    (hcomm : ∀ i amount target, (change target >>= addEntry i amount)
      = (addEntry i amount target >>= change))
    (alpha : α) (indices : List Nat) (v target : List α) :
    (change target >>= addAt alpha indices v) = (addAt alpha indices v target >>= change) := by
  induction indices generalizing v target with
  | nil => exact bind_pure (change target)
  | cons i indices ih =>
      cases v with
      | nil =>
          -- Too few entries are refused, before the change or after it.
          rcases haligning target with ⟨result, hresult⟩ | hmisaligned
          · rw [hresult]
            rfl
          · rw [hmisaligned]
            rfl
      | cons entry v =>
          have hrow : addAt alpha (i :: indices) (entry :: v)
              = fun target => addEntry i (alpha * entry) target >>= addAt alpha indices v :=
            funext fun target => addAt_cons alpha i indices entry v target
          -- The change moves past the first addition, and by induction past the others.
          rw [hrow, ← bind_assoc, hcomm, bind_assoc, bind_assoc]
          exact bind_congr fun middle => ih v middle

end

variable {K : Type} [Field K] [LinearOrder K] [ExactFunctions K]

/-- Two single additions can be exchanged, at any two places. -/
theorem addEntry_comm (i j : Nat) (a b : K) (target : List K) :
    (addEntry i a target >>= addEntry j b) = (addEntry j b target >>= addEntry i a) := by
  by_cases hij : i = j
  · -- The two amounts go to one entry.
    subst hij
    by_cases hi : i < target.length
    · simp [addEntry, hi, add_right_comm]
    · simp [addEntry, hi]
  · -- At two places, each is there or one of the two is refused either way.
    by_cases hi : i < target.length <;> by_cases hj : j < target.length
    · simp [addEntry, hi, hj, List.getElem_set_ne hij, List.getElem_set_ne (Ne.symm hij),
        List.set_comm _ _ hij]
    all_goals simp [addEntry, hi, hj]

/-- Multiples of embedded vectors can be added in any order, whatever the sizes are. -/
theorem scatterAdd_comm (selection other : Selection) (alpha beta : K) (v u target : List K) :
    (selection.scatterAdd alpha v target >>= other.scatterAdd beta u)
      = (other.scatterAdd beta u target >>= selection.scatterAdd alpha v) := by
  -- First one row against single additions, then each of these against the other row.
  refine addAt_comm_of_addEntry (aligning_addAt alpha selection.indices v) ?_ _ _ _ _
  intro i amount target
  refine (addAt_comm_of_addEntry (aligning_addEntry i amount) ?_ _ _ _ _).symm
  exact fun j amount' target => addEntry_comm i j amount amount' target

/-! ### The matrix -/

/-- `P v` as a list. -/
theorem scatter_eq_ok (selection : Selection) {v : List K} (hv : v.length = selection.size) :
    selection.scatter v
      = .ok ((List.range selection.dim).map (selection.contribution (v.getD · 0))) := by
  have hzeros : (Linear.zeros selection.dim : List K).length = selection.dim :=
    List.length_replicate
  obtain ⟨result, hresult, hlength, hentry⟩ := selection.gives_scatterAdd_entry 1 hv hzeros
  show selection.scatterAdd 1 v (Linear.zeros selection.dim) = _
  rw [hresult]
  refine congrArg Except.ok (List.ext_getElem (by simp [hlength]) fun i hi _ => ?_)
  -- Added to zeros, every entry is its contribution.
  have hvalue := hentry i (hlength ▸ hi)
  rw [List.getD_eq_getElem _ _ hi, Linear.getD_zeros, zero_add, one_mul,
    embed_eq_contribution hv] at hvalue
  simpa using hvalue

/-- There is a `P v`, in the full space. -/
theorem exists_scatter (selection : Selection) {v : List K} (hv : v.length = selection.size) :
    ∃ full, selection.scatter v = .ok full ∧ full.length = selection.dim :=
  ⟨_, selection.scatter_eq_ok hv, by simp⟩

/-- `Pᵀ P v = v`. -/
theorem select_of_scatter (selection : Selection) {v : List K} (hv : v.length = selection.size) :
    (selection.scatter v >>= selection.select) = .ok v := by
  rw [selection.scatter_eq_ok hv, Checked.ok_bind, selection.select_eq_ok (by simp)]
  refine congrArg Except.ok (List.ext_getElem (by simpa [size] using hv.symm) fun k hk hkv => ?_)
  have hk' : k < selection.indices.length := by simpa using hk
  have hbounded := selection.bounded _ (List.getElem_mem hk')
  have hplace := contribution_eq (List.getElem?_eq_getElem hk') (v.getD · 0)
  rw [List.getD_eq_getElem _ _ hkv] at hplace
  simpa [hbounded] using hplace

/-- `P Pᵀ w` keeps the selected entries of `w` and drops the others. -/
theorem scatter_of_select (selection : Selection) {w : List K} (hw : w.length = selection.dim) :
    (selection.select w >>= selection.scatter)
      = .ok (List.zipWith (fun selected entry => if selected then entry else 0)
        selection.mask w) := by
  have hsize : (selection.indices.map (w.getD · 0)).length = selection.size := List.length_map _
  rw [selection.select_eq_ok hw, Checked.ok_bind, selection.scatter_eq_ok hsize]
  refine congrArg Except.ok (List.ext_getElem (by simp [mask, hw]) fun i hi hi' => ?_)
  have hdim : i < selection.dim := by simpa using hi
  have hflag := selection.getElem?_mask hdim
  obtain ⟨hmask, hflag⟩ := List.getElem?_eq_some_iff.1 hflag
  rw [List.getElem_zipWith, hflag, List.getElem_map, List.getElem_range]
  -- A selected entry comes back to its place, and the others are left at zero.
  by_cases hmem : i ∈ selection.indices
  · obtain ⟨k, hk, rfl⟩ := List.mem_iff_getElem.1 hmem
    rw [contribution_eq (List.getElem?_eq_getElem hk)]
    simp [hk, hw, hdim]
  · rw [contribution_eq_zero hmem]
    simp [hmem]

/-- Pairing `P v` with a vector is pairing `v` with the selected entries. -/
theorem dot_of_scatter (selection : Selection) {v w : List K} (hv : v.length = selection.size)
    (hw : w.length = selection.dim) :
    (selection.scatter v >>= (Linear.dot · w))
      = (selection.select w >>= Linear.dot v) := by
  have hzeros : (Linear.zeros selection.dim : List K).length = selection.dim :=
    List.length_replicate
  have hsize : v.length = (selection.indices.map (w.getD · 0)).length :=
    hv.trans (List.length_map _).symm
  -- Scattering is adding to zeros, which count for nothing.
  obtain ⟨full, hfull, hlength, hdot⟩ := selection.gives_scatterAdd_dot 1 hv hzeros
  have hscatter : selection.scatter v = .ok full := hfull
  rw [hscatter, selection.select_eq_ok hw, Checked.ok_bind, Checked.ok_bind,
    Linear.dot_eq_ok (hlength.trans hw.symm), Linear.dot_eq_ok hsize, hdot w hw,
    Linear.laneDot_zeros, zero_add, one_mul]

/-- Adding at the coordinates is adding the embedded multiple. -/
theorem scatterAdd_eq_moveAlong (selection : Selection) (alpha : K) {v target : List K}
    (hv : v.length = selection.size) (htarget : target.length = selection.dim) :
    selection.scatterAdd alpha v target
      = (selection.scatter v >>= Linear.moveAlong target alpha) := by
  obtain ⟨result, hresult, hlength, hentry⟩ := selection.gives_scatterAdd_entry alpha hv htarget
  rw [hresult, selection.scatter_eq_ok hv, Checked.ok_bind, Linear.moveAlong, Linear.add,
    Linear.pairwise, if_pos (by simp [htarget])]
  refine congrArg Except.ok (List.ext_getElem (by simp [hlength, htarget]) fun i hi _ => ?_)
  have hvalue := hentry i (hlength ▸ hi)
  rw [List.getD_eq_getElem _ _ hi, List.getD_eq_getElem _ _ (htarget ▸ hlength ▸ hi),
    embed_eq_contribution hv] at hvalue
  simp [hvalue, mul_comm alpha]

/-- What the matrix `P` of a selection is for. Sizes are those of the selection and of
its space, and under these every operation has a result. -/
structure Embeds (K : Type) [Field K] [LinearOrder K] [ExactFunctions K] (selection : Selection) :
    Prop where
  /-- `Pᵀ P v = v`. -/
  select_scatter : ∀ v : List K, v.length = selection.size →
    (selection.scatter v >>= selection.select) = .ok v
  /-- `P Pᵀ w` is `w` at the coordinates of the mask and zero elsewhere. -/
  scatter_select : ∀ w : List K, w.length = selection.dim →
    (selection.select w >>= selection.scatter)
      = .ok (List.zipWith (fun selected entry => if selected then entry else 0) selection.mask w)
  /-- `P v · w = v · Pᵀ w`. -/
  adjoint : ∀ v w : List K, v.length = selection.size → w.length = selection.dim →
    ∃ product, (selection.scatter v >>= (Linear.dot · w)) = .ok product
      ∧ (selection.select w >>= Linear.dot v) = .ok product
  /-- `P v · P v' = v · v'`. -/
  isometric : ∀ v v' : List K, v.length = selection.size → v'.length = selection.size →
    ∃ product, (selection.scatter v >>= fun u => selection.scatter v' >>= Linear.dot u)
        = .ok product ∧ Linear.dot v v' = .ok product
  /-- Adding at the coordinates gives `t + alpha * P v`, and leaves the other entries as
  they were. -/
  scatterAdd : ∀ (alpha : K) (v t : List K), v.length = selection.size →
    t.length = selection.dim → ∃ result, selection.scatterAdd alpha v t = .ok result
      ∧ (selection.scatter v >>= Linear.moveAlong t alpha) = .ok result
      ∧ ∀ i : Nat, selection.mask[i]? = some false → result[i]? = t[i]?
  /-- Two additions can be exchanged, for whatever selections and vectors. -/
  scatterAdd_comm : ∀ (other : Selection) (alpha beta : K) (v u t : List K),
    (selection.scatterAdd alpha v t >>= other.scatterAdd beta u)
      = (other.scatterAdd beta u t >>= selection.scatterAdd alpha v)
  /-- The mask has a flag for every coordinate, which is set if it is selected. -/
  mask : selection.mask.length = selection.dim
    ∧ (∀ i, selection.mask[i]? = some true ↔ i ∈ selection.indices)
    ∧ selection.mask.count true = selection.size

/-- Every selection embeds its entries into its space. -/
theorem embeds (selection : Selection) : selection.Embeds K where
  select_scatter v hv := selection.select_of_scatter hv
  scatter_select w hw := selection.scatter_of_select hw
  adjoint v w hv hw := by
    have hsize : v.length = (selection.indices.map (w.getD · 0)).length :=
      hv.trans (List.length_map _).symm
    have hproduct : (selection.select w >>= Linear.dot v)
        = .ok (Linear.laneDot v (selection.indices.map (w.getD · 0))) := by
      rw [selection.select_eq_ok hw, Checked.ok_bind, Linear.dot_eq_ok hsize]
    exact ⟨_, (selection.dot_of_scatter hv hw).trans hproduct, hproduct⟩
  isometric v v' hv hv' := by
    refine ⟨_, ?_, Linear.dot_eq_ok (hv.trans hv'.symm)⟩
    -- What is selected from `P v'` is `v'`.
    obtain ⟨full, hfull, hlength⟩ := selection.exists_scatter hv'
    have hselect := selection.select_of_scatter hv'
    rw [hfull, Checked.ok_bind] at hselect
    have hdot := selection.dot_of_scatter hv hlength
    rw [hselect, Checked.ok_bind, Linear.dot_eq_ok (hv.trans hv'.symm)] at hdot
    rw [← hdot, hfull]
    rfl
  scatterAdd alpha v t hv ht := by
    obtain ⟨result, hresult, hlength, hentry⟩ := selection.gives_scatterAdd_position alpha hv ht
    refine ⟨result, hresult, (selection.scatterAdd_eq_moveAlong alpha hv ht).symm.trans hresult,
      fun i hi => ?_⟩
    obtain ⟨hlt, -⟩ := List.getElem?_eq_some_iff.1 hi
    have hdim : i < selection.dim := by simpa [Selection.mask] using hlt
    rw [selection.getElem?_mask hdim, Option.some.injEq, decide_eq_false_iff_not] at hi
    have hvalue := hentry i
    rw [position?_eq_none_iff.2 hi] at hvalue
    simpa [hlength, ht, hdim] using hvalue
  scatterAdd_comm other alpha beta v u t := selection.scatterAdd_comm other alpha beta v u t
  mask := by
    have hlength : selection.mask.length = selection.dim := by simp [Selection.mask]
    refine ⟨hlength, fun i => ?_, selection.count_true_mask⟩
    by_cases hi : i < selection.dim
    · simp [selection.getElem?_mask hi]
    · have hout : i ∉ selection.indices := fun hmem => hi (selection.bounded i hmem)
      simp [hlength, hi, hout]

/-- Indices are accepted if and only if they increase strictly within the space, and
then as they are. Otherwise the refusal names the first index that breaks this. Every
selection that is accepted embeds the vectors over its coordinates isometrically. -/
theorem ofIndices_embeds (dim : Nat) (indices : List Nat) :
    ((∃ selection, (ofIndices dim indices : Checked K Selection) = .ok selection)
        ↔ Selectable dim indices)
      ∧ (∀ error : Error K, ofIndices dim indices = .error error
        ↔ ∃ accepted index rest, indices = accepted ++ index :: rest ∧ Selectable dim accepted
          ∧ ¬ Selectable dim (accepted ++ [index])
          ∧ error = .invalidSelection "bound selection" index dim)
      ∧ ∀ selection, (ofIndices dim indices : Checked K Selection) = .ok selection →
        selection.dim = dim ∧ selection.indices = indices ∧ selection.Embeds K := by
  refine ⟨⟨?_, ?_⟩, fun error => ofIndices_eq_error_iff, fun selection hok => ?_⟩
  · rintro ⟨selection, hok⟩
    obtain ⟨rfl, rfl⟩ := ofIndices_eq_ok_iff.1 hok
    exact ⟨selection.increasing, selection.bounded⟩
  · intro h
    exact ⟨⟨dim, indices, h.increasing, h.bounded⟩, ofIndices_eq_ok_iff.2 ⟨rfl, rfl⟩⟩
  · obtain ⟨hdim, hindices⟩ := ofIndices_eq_ok_iff.1 hok
    exact ⟨hdim, hindices, selection.embeds⟩

/-- Two of four coordinates. A third index that repeats the second is refused by
name. -/
theorem ofIndices_embeds_pair :
    ∃ selection, (ofIndices 4 [1, 3] : Checked ℚ Selection) = .ok selection
      ∧ (selection.scatter [2, 4] >>= selection.select) = .ok [(2 : ℚ), 4]
      ∧ (selection.select [1, 2, 3, 4] >>= selection.scatter) = .ok [(0 : ℚ), 2, 0, 4]
      ∧ selection.mask.count true = 2
      ∧ ofIndices 4 [1, 3, 3, 0]
        = .error (.invalidSelection "bound selection" 3 4 : Error ℚ) := by
  obtain ⟨haccepted, -, hlaws⟩ := ofIndices_embeds (K := ℚ) 4 [1, 3]
  obtain ⟨-, hrefused, -⟩ := ofIndices_embeds (K := ℚ) 4 [1, 3, 3, 0]
  obtain ⟨selection, hok⟩ := haccepted.2 ⟨by decide, by decide⟩
  obtain ⟨hdim, hindices, hembeds⟩ := hlaws selection hok
  have hsize : selection.size = 2 := by rw [size, hindices]; rfl
  have hmask : selection.mask = [false, true, false, true] := by
    rw [mask, hdim, hindices]
    rfl
  refine ⟨selection, hok, hembeds.select_scatter _ hsize.symm, ?_, ?_, ?_⟩
  · rw [hembeds.scatter_select [1, 2, 3, 4] hdim.symm, hmask]
    rfl
  · exact hembeds.mask.2.2.trans hsize
  · -- The second three is the first index out of order.
    refine (hrefused _).2 ⟨[1, 3], 3, [0], rfl, ⟨by decide, by decide⟩, fun h => ?_, rfl⟩
    exact absurd h.increasing (by decide)

end Selection

end InteriorPoint
