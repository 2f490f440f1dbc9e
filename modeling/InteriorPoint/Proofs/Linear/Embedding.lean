import InteriorPoint.Proofs.Linear.Exact

/-!
# `InteriorPoint.Proofs.Linear.Embedding`: entries of an embedded vector

`Selection.embed` is `P v` coordinate by coordinate. It is linear in `v`
(`embed_sub`, `embed_map_mul`), and adding a multiple of `P v` to a vector
adds that multiple of `embed v i` to entry `i` (`gives_scatterAdd_entry`).

No second induction over the coordinates is needed for that. An entry is
the dot product with a unit vector (`laneDot_unit`), so what is known of
dot products (`gives_scatterAdd_dot`) says it of every entry.
-/

set_option autoImplicit false

namespace InteriorPoint

variable {K : Type} [Field K] [LinearOrder K] [ExactFunctions K]

namespace Linear

/-- The vector of length `n` with a one at position `i` and zeros
elsewhere. -/
def unit (n i : Nat) : List K :=
  (zeros n).set i 1

/-- A unit vector has the length it was made for. -/
@[simp]
theorem length_unit (n i : Nat) : (unit n i : List K).length = n := by
  simp [unit, zeros]

/-- It has a one at its own position and zeros elsewhere. -/
theorem getD_unit {n i : Nat} (hi : i < n) (j : Nat) :
    (unit n i : List K).getD j 0 = if j = i then 1 else 0 := by
  unfold unit zeros
  rw [List.getD_eq_getElem?_getD, List.getElem?_set, List.getElem?_replicate]
  by_cases hij : i = j
  · simp [hij, hij ▸ hi]
  · -- Off the diagonal there is a zero, or nothing.
    have hji : ¬ j = i := fun h => hij h.symm
    by_cases hj : j < n <;> simp [hij, hji, hj]

/-- Pairing a vector with a unit vector reads off an entry. -/
theorem laneDot_unit (v : List K) {i : Nat} (hi : i < v.length) :
    laneDot v (unit v.length i) = v.getD i 0 := by
  have hlength : (zeros v.length : List K).length = v.length := List.length_replicate
  have hi' : i < (zeros v.length : List K).length := by rwa [hlength]
  have hzero : (zeros v.length : List K)[i] + 1 = 1 := by simp [zeros]
  -- The unit vector is the zero vector with one entry changed.
  have hset := laneDot_set hlength hi' 1
  rw [hzero, laneDot_zeros, zero_add, one_mul] at hset
  rw [laneDot_comm]
  exact hset

end Linear

namespace Selection

open Checked (Gives)

/-- Entry `i` of `P v`. Column `n` of `P` has its one in the row of the
`n`-th selected coordinate. -/
def embed (selection : Selection) (v : List K) (i : Nat) : K :=
  (List.zipWith (fun j entry => if j = i then entry else 0) selection.indices v).sum

/-- Selecting from a unit vector gives a row of `P`. -/
theorem laneDot_select_unit (selection : Selection) (v : List K) {i : Nat}
    (hi : i < selection.dim) :
    Linear.laneDot v (selection.indices.map ((Linear.unit selection.dim i).getD · 0))
      = selection.embed v i := by
  rw [Linear.laneDot_eq, embed, List.zipWith_map_right, List.zipWith_comm]
  simp only [Linear.getD_unit (K := K) hi, mul_ite, mul_one, mul_zero]

/-- Row `i` of `P`, paired with the vector. -/
theorem embed_eq_laneDot (selection : Selection) (v : List K) (i : Nat) :
    selection.embed v i
      = Linear.laneDot v (selection.indices.map fun j => if j = i then 1 else 0) := by
  rw [Linear.laneDot_eq, embed, List.zipWith_map_right, List.zipWith_comm]
  simp only [mul_ite, mul_one, mul_zero]

/-- Embedding respects differences. -/
theorem embed_sub (selection : Selection) {v w : List K} (h : v.length = w.length) (i : Nat) :
    selection.embed (List.zipWith (· - ·) v w) i = selection.embed v i - selection.embed w i := by
  simp only [embed_eq_laneDot, Linear.laneDot_sub_left h]

/-- Embedding respects multiples. -/
theorem embed_map_mul (selection : Selection) (v : List K) (a : K) (i : Nat) :
    selection.embed (v.map (· * a)) i = a * selection.embed v i := by
  simp only [embed_eq_laneDot, Linear.laneDot_comm _ (selection.indices.map _),
    Linear.laneDot_map_mul]

/-- Adding a multiple of `P v` adds to every entry the multiple of its
own. -/
theorem gives_scatterAdd_entry (selection : Selection) (alpha : K) {v target : List K}
    (hv : v.length = selection.size) (htarget : target.length = selection.dim) :
    Gives (selection.scatterAdd alpha v target) fun result => result.length = selection.dim
      ∧ ∀ i, i < selection.dim →
        result.getD i 0 = target.getD i 0 + alpha * selection.embed v i := by
  refine (selection.gives_scatterAdd_dot alpha hv htarget).mono fun result ⟨hlength, hdot⟩ => ?_
  refine ⟨hlength, fun i hi => ?_⟩
  -- Both entries are dot products with the same unit vector.
  have hresult := Linear.laneDot_unit result (hlength.symm ▸ hi)
  have hentry := Linear.laneDot_unit target (htarget.symm ▸ hi)
  rw [hlength] at hresult
  rw [htarget] at hentry
  rw [← hresult, hdot _ (Linear.length_unit _ _), hentry, laneDot_select_unit selection v hi]

end Selection

end InteriorPoint
