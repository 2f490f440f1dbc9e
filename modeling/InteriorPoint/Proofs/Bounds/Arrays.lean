import InteriorPoint.Bounds
import InteriorPoint.Proofs.Bounds.Position
import InteriorPoint.Proofs.Scalar.Infinity

/-!
# `InteriorPoint.Proofs.Bounds.Arrays`: bounds given by two arrays

Two arrays of limits, with infinite entries at coordinates without a bound,
describe a box. Bounds keep the finite entries only, each side in a list of its
own. `ofArrays_represents` says that nothing is lost and nothing is added: the
bounds admit the points of the box, and filling the gaps with the infinities
gives the arrays back. What is refused are arrays of unequal length and limits
that are crossed, and the refusal names the first coordinate where they are.

All of this is read off from what is stored for one coordinate, `bound? i`. It
is entry `i` of the array, if that is finite (`bound?_ofArray`).

The limits of one array are built with their invariants in place. Selecting the
coordinates first and checking them as every other selection is checked
(`ofArrayChecked`) never fails and gives the same (`ofArrayChecked_eq`).
-/

set_option autoImplicit false

namespace InteriorPoint

/-! ### Checked selections -/

namespace Selection

/-- Coordinates in order, none of them below the floor or out of range, have no
fault. -/
theorem firstFault_eq_none {dim : Nat} {indices : List Nat} (increasing : indices.Pairwise (· < ·))
    {floor : Nat} (hrange : ∀ i ∈ indices, floor ≤ i ∧ i < dim) :
    firstFault dim floor indices = none := by
  induction indices generalizing floor with
  | nil => rfl
  | cons i indices ih =>
      obtain ⟨hfirst, hrest⟩ := List.forall_mem_cons.1 hrange
      obtain ⟨hbelow, hpairwise⟩ := List.pairwise_cons.1 increasing
      rw [firstFault, if_pos ⟨hfirst.2, hfirst.1⟩]
      -- The floor rises to just above `i`, and the rest lies above `i`.
      exact ih hpairwise fun j hj => ⟨hbelow j hj, (hrest j hj).2⟩

/-- The check of coordinates passes if there is a selection of just these, and
gives it. -/
theorem ofIndices_eq_ok_iff {α : Type} {dim : Nat} {indices : List Nat} {selection : Selection} :
    ofIndices (α := α) dim indices = .ok selection
      ↔ selection.dim = dim ∧ selection.indices = indices := by
  constructor
  · intro hok
    unfold ofIndices at hok
    split at hok
    · cases hok
      exact ⟨rfl, rfl⟩
    · cases hok
  · rintro ⟨rfl, rfl⟩
    -- The indices of a selection are in order and in range, so none is at fault.
    have hclean : firstFault selection.dim 0 selection.indices = none :=
      firstFault_eq_none selection.increasing fun i hi => ⟨i.zero_le, selection.bounded i hi⟩
    unfold ofIndices
    split
    · rfl
    · rename_i hfault
      rw [hclean] at hfault
      cases hfault

end Selection

/-! ### The bound of a coordinate -/

namespace Limits

variable {α : Type}

/-- The bound of a coordinate, if it has one. -/
def bound? (limits : Limits α) (i : Nat) : Option α :=
  (limits.selection.position? i).bind fun k => limits.values[k]?

/-- The bounds as an array over the space, with `gap` at the coordinates that
have none. -/
def fill (limits : Limits α) (gap : α) : List α :=
  (List.range limits.selection.dim).map fun i => (limits.bound? i).getD gap

/-- Values become bounds if there are limits with just these coordinates and
values. -/
theorem ofValues_eq_ok_iff {selection : Selection} {values : List α} {limits : Limits α} :
    ofValues selection values = .ok limits
      ↔ limits.selection = selection ∧ limits.values = values := by
  constructor
  · intro hok
    unfold ofValues at hok
    split at hok
    · cases hok
      exact ⟨rfl, rfl⟩
    · cases hok
  · rintro ⟨rfl, rfl⟩
    exact dif_pos limits.aligned

/-- A coordinate has a bound if it stands in the list, at the place of
that bound. -/
theorem bound?_eq_some_iff {limits : Limits α} {i : Nat} {bound : α} :
    limits.bound? i = some bound
      ↔ ∃ k : Nat, limits.selection.indices[k]? = some i ∧ limits.values[k]? = some bound := by
  simp only [bound?, Option.bind_eq_some_iff, Selection.position?_eq_some_iff]

/-- The selected coordinates are those that have a bound. -/
theorem mem_indices_iff {limits : Limits α} {i : Nat} :
    i ∈ limits.selection.indices ↔ ∃ bound, limits.bound? i = some bound := by
  constructor
  · intro hi
    -- The index stands at some position, where there is a value as well.
    obtain ⟨k, hk⟩ := List.mem_iff_getElem?.1 hi
    have hlt : k < limits.values.length := by
      obtain ⟨hlt, -⟩ := List.getElem?_eq_some_iff.1 hk
      rw [limits.aligned]
      exact hlt
    exact ⟨limits.values[k], bound?_eq_some_iff.2 ⟨k, hk, List.getElem?_eq_getElem hlt⟩⟩
  · rintro ⟨bound, hbound⟩
    obtain ⟨k, hk, -⟩ := bound?_eq_some_iff.1 hbound
    exact List.mem_of_getElem? hk

variable [Scalar α] (array : List α)

/-- The bound that an array gives to a coordinate is its entry there, unless that
is not finite. -/
theorem bound?_ofArray (i : Nat) : (ofArray array).bound? i = array[i]?.filter Scalar.isFinite := by
  refine Option.ext fun bound => ?_
  rw [bound?_eq_some_iff, Option.filter_eq_some_iff, ← List.mk_mem_zipIdx_iff_getElem?]
  show (∃ k : Nat, ((finiteEntries array).map Prod.snd)[k]? = some i
      ∧ ((finiteEntries array).map Prod.fst)[k]? = some bound) ↔ _
  -- The two lists hold the parts of one list of entries.
  rw [← List.mem_filter (p := fun entry : α × Nat => Scalar.isFinite entry.1),
    List.mem_iff_getElem?]
  refine exists_congr fun k => ?_
  rw [List.getElem?_map, List.getElem?_map, finiteEntries]
  cases (array.zipIdx.filter fun entry => Scalar.isFinite entry.1)[k]? with
  | none => simp
  | some entry => simp [Prod.ext_iff, and_comm]

/-- If one value stands for all entries that are not finite, filling the gaps with it
gives the array back. -/
theorem fill_ofArray {gap : α} (hgap : ∀ a ∈ array, Scalar.isFinite a = false → a = gap) :
    (ofArray array).fill gap = array := by
  refine List.ext_getElem? fun i => ?_
  rw [fill, List.getElem?_map]
  show Option.map _ (List.range array.length)[i]? = _
  -- Past the end, neither list has an entry.
  by_cases hi : i < array.length
  · rw [List.getElem?_range hi, Option.map_some, bound?_ofArray, List.getElem?_eq_getElem hi]
    by_cases hfinite : Scalar.isFinite array[i] = true
    · rw [Option.filter_some, if_pos hfinite]
      rfl
    · rw [Option.filter_some, if_neg hfinite]
      exact congrArg some (hgap array[i] (List.getElem_mem hi) (Bool.eq_false_iff.2 hfinite)).symm
  · simp [hi]

/-- The finite entries of an array as bounds, with the checks that all selections
and all bounds go through. -/
def ofArrayChecked : Checked α (Limits α) := do
  let finite := (List.range array.length).filter fun i => Scalar.isFinite (array.getD i 0)
  let selection ← Selection.ofIndices array.length finite
  ofValues selection (finite.map fun i => array.getD i 0)

/-- The checks never fail on the finite entries of an array. -/
theorem ofArrayChecked_eq : ofArrayChecked array = .ok (ofArray array) := by
  have hindices : (List.range array.length).filter (fun i => Scalar.isFinite (array.getD i 0))
      = (ofArray array).selection.indices := by
    rw [Selection.indices_eq_filter_range]
    refine List.filter_congr fun i hi => ?_
    rw [Bool.eq_iff_iff, decide_eq_true_iff, mem_indices_iff, bound?_ofArray,
      List.getElem?_eq_getElem (List.mem_range.1 hi)]
    simp [Option.filter_eq_some_iff, List.mem_range.1 hi]
  have hvalues : (ofArray array).selection.indices.map (fun i => array.getD i 0)
      = (ofArray array).values := by
    show ((finiteEntries array).map Prod.snd).map _ = (finiteEntries array).map Prod.fst
    rw [List.map_map]
    refine List.map_congr_left fun entry hentry => ?_
    -- An entry was taken from the place it is listed with.
    have hplace : array[entry.2]? = some entry.1 :=
      List.mk_mem_zipIdx_iff_getElem?.1 (List.mem_filter.1 hentry).1
    simp [List.getD_eq_getElem?_getD, hplace]
  -- So both checks are asked about data that is known to be limits.
  unfold ofArrayChecked
  rw [hindices]
  refine Checked.bind_eq_ok.2 ⟨_, Selection.ofIndices_eq_ok_iff.2 ⟨rfl, rfl⟩, ?_⟩
  exact ofValues_eq_ok_iff.2 ⟨rfl, hvalues.symm⟩

/-- If a property holds of the entries that are not finite anyway, it holds of all
bounds if and only if it holds of all entries. -/
theorem forall_bound?_ofArray_iff {p : Nat → α → Prop}
    (hgap : ∀ (i : Nat) (a : α), array[i]? = some a → Scalar.isFinite a = false → p i a) :
    (∀ i bound, (ofArray array).bound? i = some bound → p i bound)
      ↔ ∀ (i : Nat) (a : α), array[i]? = some a → p i a := by
  simp only [bound?_ofArray, Option.filter_eq_some_iff, and_imp]
  constructor
  · intro hbounds i a ha
    -- An entry that is not finite is no bound, and satisfies `p` anyway.
    by_cases hfinite : Scalar.isFinite a = true
    · exact hbounds i a ha hfinite
    · exact hgap i a ha (Bool.eq_false_iff.2 hfinite)
  · intro hentries i a ha _
    exact hentries i a ha

end Limits

/-! ### Crossed limits -/

namespace Bounds

variable {α : Type} [Scalar α]

/-- At coordinate `i` the lower limit `l` exceeds the upper limit `u`. -/
def CrossedAt (lower upper : List α) (i : Nat) (l u : α) : Prop :=
  lower[i]? = some l ∧ upper[i]? = some u ∧ u < l

/-- The limits at `i` are crossed, and those at no coordinate before it are. -/
def FirstCrossedAt (lower upper : List α) (i : Nat) (l u : α) : Prop :=
  CrossedAt lower upper i l u ∧ ∀ j < i, ∀ l' u', ¬ CrossedAt lower upper j l' u'

/-- Limits that are not crossed at the head are first crossed at a place of the
tails. -/
theorem exists_firstCrossedAt_cons {lower upper : List α} {a b : α} (hab : ¬ b < a)
    {p : Nat → α → α → Prop} :
    (∃ i l u, FirstCrossedAt (a :: lower) (b :: upper) i l u ∧ p i l u)
      ↔ ∃ i l u, FirstCrossedAt lower upper i l u ∧ p (i + 1) l u := by
  constructor
  · rintro ⟨i, l, u, ⟨hcrossed, hfirst⟩, hp⟩
    -- The first entries are in order, so the pair that is found stands behind them.
    cases i with
    | zero =>
        obtain ⟨⟨⟩, ⟨⟩, hul⟩ := hcrossed
        exact absurd hul hab
    | succ i => exact ⟨i, l, u, ⟨hcrossed, fun j hj => hfirst (j + 1) (Nat.succ_lt_succ hj)⟩, hp⟩
  · rintro ⟨i, l, u, ⟨hcrossed, hfirst⟩, hp⟩
    refine ⟨i + 1, l, u, ⟨hcrossed, ?_⟩, hp⟩
    intro j hj l' u' hearlier
    cases j with
    | zero =>
        obtain ⟨⟨⟩, ⟨⟩, hul⟩ := hearlier
        exact hab hul
    | succ j => exact hfirst j (Nat.lt_of_succ_lt_succ hj) l' u' hearlier

/-- Limits are refused at the first place where they are crossed, counted
from `index`. -/
theorem ensureOrdered_eq_error_iff {lower upper : List α} {index : Nat} {e : Error α} :
    ensureOrdered index lower upper = .error e
      ↔ ∃ i l u, FirstCrossedAt lower upper i l u ∧ e = .crossedBounds (index + i) l u := by
  induction index, lower, upper using ensureOrdered.induct with
  | case1 index l lower u upper hul =>
      -- The heads are crossed, and nothing stands before them.
      rw [ensureOrdered, if_pos hul]
      constructor
      · rintro ⟨⟩
        exact ⟨0, l, u, ⟨⟨rfl, rfl, hul⟩, fun j hj => absurd hj j.not_lt_zero⟩, rfl⟩
      · rintro ⟨i, l', u', ⟨hcrossed, hfirst⟩, rfl⟩
        cases i with
        | zero =>
            obtain ⟨⟨⟩, ⟨⟩, -⟩ := hcrossed
            rfl
        | succ i => exact absurd ⟨rfl, rfl, hul⟩ (hfirst 0 i.succ_pos l u)
  | case2 index l lower u upper hul ih =>
      rw [ensureOrdered, if_neg hul, ih, exists_firstCrossedAt_cons hul]
      simp only [Nat.add_right_comm, Nat.add_assoc]
  | case3 lower index upper hempty =>
      rw [ensureOrdered.eq_2 index lower upper hempty]
      constructor
      · rintro ⟨⟩
      · rintro ⟨i, l, u, ⟨⟨hl, hu, -⟩, -⟩, -⟩
        -- An entry of both arrays is there only if neither is empty.
        cases lower with
        | nil => cases hl
        | cons a lower =>
            cases upper with
            | nil => cases hu
            | cons b upper => exact (hempty a lower b upper rfl rfl).elim

/-- Limits pass if they are crossed nowhere. -/
theorem ensureOrdered_eq_ok_iff {lower upper : List α} {index : Nat} :
    ensureOrdered index lower upper = .ok () ↔ ∀ i l u, ¬ CrossedAt lower upper i l u := by
  constructor
  · intro hok i
    induction i using Nat.strong_induction_on with
    | _ i ih =>
        intro l u hcrossed
        -- Nothing before `i` is crossed, so the refusal would name `i`.
        rw [ensureOrdered_eq_error_iff.2 ⟨i, l, u, ⟨hcrossed, ih⟩, rfl⟩] at hok
        cases hok
  · intro hnone
    cases hresult : ensureOrdered index lower upper with
    | ok _ => rfl
    | error e =>
        obtain ⟨i, l, u, ⟨hcrossed, -⟩, -⟩ := ensureOrdered_eq_error_iff.1 hresult
        exact absurd hcrossed (hnone i l u)

/-- Two arrays are refused if their lengths differ, and else at the first place where
they are crossed. -/
theorem ofArrays_eq_error_iff {lower upper : List α} {e : Error α} :
    ofArrays lower upper = .error e
      ↔ lower.length ≠ upper.length
          ∧ e = .dimensionMismatch "upper limits" lower.length upper.length
        ∨ lower.length = upper.length
          ∧ ∃ i l u, FirstCrossedAt lower upper i l u ∧ e = .crossedBounds i l u := by
  unfold ofArrays
  split
  · rename_i hlength
    -- Of two arrays of one length only the order can be at fault.
    rw [Checked.bind_eq_error, ensureOrdered_eq_error_iff]
    simp [hlength, Checked.pure_ne_error]
  · rename_i hlength
    simp [hlength, eq_comm]

omit [Scalar α] in
/-- Bounds are their two sides; that these agree in dimension is a proof.
-/
theorem eq_of_sides {first second : Bounds α} (hlower : first.lower = second.lower)
    (hupper : first.upper = second.upper) : first = second := by
  cases first
  cases second
  cases hlower
  cases hupper
  rfl

/-- Two arrays are accepted if they are of one length and crossed nowhere.
The sides are their finite entries. -/
theorem ofArrays_eq_ok_iff {lower upper : List α} {bounds : Bounds α} :
    ofArrays lower upper = .ok bounds
      ↔ lower.length = upper.length ∧ (∀ i l u, ¬ CrossedAt lower upper i l u)
        ∧ bounds.lower = .ofArray lower ∧ bounds.upper = .ofArray upper := by
  unfold ofArrays
  split
  · rename_i hlength
    rw [Checked.check_bind_eq_ok, ensureOrdered_eq_ok_iff, Checked.pure_eq_ok]
    constructor
    · rintro ⟨hordered, rfl⟩
      exact ⟨hlength, hordered, rfl, rfl⟩
    · rintro ⟨-, hordered, hlower, hupper⟩
      exact ⟨hordered, eq_of_sides hlower.symm hupper.symm⟩
  · rename_i hlength
    simp [hlength]

/-! ### The box -/

/-- Whether a point satisfies all bounds. -/
def Admits (bounds : Bounds α) (x : List α) : Prop :=
  (∀ i bound, bounds.lower.bound? i = some bound → bound ≤ x.getD i 0)
    ∧ ∀ i bound, bounds.upper.bound? i = some bound → x.getD i 0 ≤ bound

/-- Whether a point lies between two arrays, entry by entry. -/
def Between (lower upper x : List α) : Prop :=
  (∀ (i : Nat) (l : α), lower[i]? = some l → l ≤ x.getD i 0)
    ∧ ∀ (i : Nat) (u : α), upper[i]? = some u → x.getD i 0 ≤ u

end Bounds

section
open Binary64 (infinity negInfinity)

/-- The bounds given by two arrays are exactly the box between them. The entries
are numbers, and neither side excludes every finite value by an infinity.

The arrays are refused if and only if their lengths differ or they are crossed,
with the first crossed coordinate in the refusal. Otherwise there are bounds.
They have the dimension of the arrays, and they admit a finite point if and only
if it lies between the arrays. Filling the gaps with the infinities gives both
arrays back, and these give the same bounds again. The limits of either side
pass every check of the general construction. -/
theorem Bounds.ofArrays_represents {lower upper : List Binary64}
    (hlower : ∀ l ∈ lower, Scalar.IsNumber l ∧ l ≠ infinity)
    (hupper : ∀ u ∈ upper, Scalar.IsNumber u ∧ u ≠ negInfinity) :
    (∀ e, ofArrays lower upper = .error e
        ↔ lower.length ≠ upper.length
            ∧ e = .dimensionMismatch "upper limits" lower.length upper.length
          ∨ lower.length = upper.length
            ∧ ∃ i l u, FirstCrossedAt lower upper i l u ∧ e = .crossedBounds i l u)
      ∧ (lower.length = upper.length → (∀ i l u, ¬ CrossedAt lower upper i l u) →
        ∃ bounds, ofArrays lower upper = .ok bounds
          ∧ bounds.dim = lower.length
          ∧ (∀ x : List Binary64, x.length = bounds.dim → (∀ a ∈ x, Scalar.isFinite a = true) →
            (bounds.Admits x ↔ Between lower upper x))
          ∧ bounds.lower.fill negInfinity = lower
          ∧ bounds.upper.fill infinity = upper
          ∧ ofArrays (bounds.lower.fill negInfinity) (bounds.upper.fill infinity) = .ok bounds
          ∧ Limits.ofArrayChecked lower = .ok bounds.lower
          ∧ Limits.ofArrayChecked upper = .ok bounds.upper) := by
  have hlowerGap : ∀ l ∈ lower, Scalar.isFinite l = false → l = negInfinity := by
    intro l hl hinfinite
    obtain ⟨hnumber, hne⟩ := hlower l hl
    exact (Binary64.eq_infinity_or_eq_negInfinity hnumber hinfinite).resolve_left hne
  have hupperGap : ∀ u ∈ upper, Scalar.isFinite u = false → u = infinity := by
    intro u hu hinfinite
    obtain ⟨hnumber, hne⟩ := hupper u hu
    exact (Binary64.eq_infinity_or_eq_negInfinity hnumber hinfinite).resolve_right hne
  have hfillLower : (Limits.ofArray lower).fill negInfinity = lower :=
    Limits.fill_ofArray lower hlowerGap
  have hfillUpper : (Limits.ofArray upper).fill infinity = upper :=
    Limits.fill_ofArray upper hupperGap
  refine ⟨fun e => ofArrays_eq_error_iff, ?_⟩
  intro hlength hordered
  have hok : ofArrays lower upper = .ok ⟨.ofArray lower, .ofArray upper, hlength⟩ :=
    ofArrays_eq_ok_iff.2 ⟨hlength, hordered, rfl, rfl⟩
  refine ⟨_, hok, rfl, ?_, hfillLower, hfillUpper, ?_, Limits.ofArrayChecked_eq lower,
    Limits.ofArrayChecked_eq upper⟩
  · intro x hx hfinite
    have hsize : x.length = lower.length := hx
    have hnumber : ∀ i, i < lower.length → Scalar.IsNumber (x.getD i 0) := by
      intro i hi
      have hix : i < x.length := by omega
      rw [List.getD_eq_getElem _ _ hix]
      exact LawfulFinite.isNumber_of_isFinite (hfinite x[i] (List.getElem_mem hix))
    -- A limit that is infinite holds of every number.
    apply and_congr
    · apply Limits.forall_bound?_ofArray_iff lower
      intro i l hl hinfinite
      obtain ⟨hi, -⟩ := List.getElem?_eq_some_iff.1 hl
      rw [hlowerGap l (List.mem_of_getElem? hl) hinfinite]
      exact Binary64.negInfinity_le (hnumber i hi)
    · apply Limits.forall_bound?_ofArray_iff upper
      intro i u hu hinfinite
      obtain ⟨hi, -⟩ := List.getElem?_eq_some_iff.1 hu
      rw [hupperGap u (List.mem_of_getElem? hu) hinfinite]
      exact Binary64.le_infinity (hnumber i (by omega))
  · show ofArrays ((Limits.ofArray lower).fill negInfinity) ((Limits.ofArray upper).fill infinity)
      = _
    rw [hfillLower, hfillUpper]
    exact hok

/-- One coordinate of each kind, and limits that are crossed at the second of two
coordinates. -/
theorem Bounds.ofArrays_represents_every_kind :
    let lower : List Binary64 := [0, negInfinity, -1, negInfinity]
    let upper : List Binary64 := [infinity, 1, 1, infinity]
    (∃ bounds, ofArrays lower upper = .ok bounds
        ∧ bounds.lower.selection.indices = [0, 2] ∧ bounds.upper.selection.indices = [1, 2]
        ∧ bounds.lower.fill negInfinity = lower ∧ bounds.upper.fill infinity = upper
        ∧ (bounds.Admits [0, 1, 1, 0] ↔ Between lower upper [0, 1, 1, 0]))
      ∧ ofArrays [0, 1] [infinity, (0 : Binary64)] = .error (.crossedBounds 1 1 0) := by
  intro lower upper
  have hok : ofArrays lower upper = .ok ⟨.ofArray lower, .ofArray upper, rfl⟩ := rfl
  obtain ⟨-, hordered, -⟩ := ofArrays_eq_ok_iff.1 hok
  obtain ⟨-, hbox⟩ := @ofArrays_represents lower upper (by decide +kernel) (by decide +kernel)
  -- A range, a bound on either side, and none at all.
  obtain ⟨bounds, hbounds, -, hadmits, hfillLower, hfillUpper, -⟩ := hbox rfl hordered
  cases hok.symm.trans hbounds
  exact ⟨⟨_, hok, by decide +kernel, by decide +kernel, hfillLower, hfillUpper,
    hadmits _ rfl (by decide +kernel)⟩, rfl⟩

end

end InteriorPoint
