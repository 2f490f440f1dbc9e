import Mathlib.Tactic.Ring
import InteriorPoint.Proofs.Scalar.Exact
import InteriorPoint.Proofs.Linear.Fitting
import InteriorPoint.Proofs.Linear.SignedZero

/-!
# `InteriorPoint.Proofs.Linear.Exact`: vectors in exact arithmetic

In exact arithmetic the order of a sum is of no account. So the dot
product, which runs in eight lanes, is the sum of the products of
matching entries (`laneDot_eq`), and it is linear in either vector.

Selecting coordinates and adding at coordinates belong together: the dot
product of `target + alpha * P v` with a vector is that of `target` plus
`alpha` times the dot product of `v` with the selected entries
(`gives_scatterAdd_dot`). By induction on the coordinates, each of which
changes one entry of the target (`laneDot_set`).
-/

set_option autoImplicit false

namespace InteriorPoint

variable {K : Type} [Field K] [LinearOrder K] [ExactFunctions K]

namespace Linear

/-- A sum from left to right may start anywhere. -/
theorem foldl_add (start : K) (entries : List K) :
    entries.foldl (· + ·) start = start + entries.sum := by
  induction entries generalizing start with
  | nil => simp
  | cons entry entries ih =>
      rw [List.foldl_cons, ih, List.sum_cons]
      ring

/-- The eight lanes together hold the sum. By induction along the lanes,
of which the last ones may be incomplete. -/
theorem laneSum_eq (a₀ a₁ a₂ a₃ a₄ a₅ a₆ a₇ : K) (products : List K) :
    laneSum a₀ a₁ a₂ a₃ a₄ a₅ a₆ a₇ products
      = a₀ + a₁ + a₂ + a₃ + a₄ + a₅ + a₆ + a₇ + products.sum := by
  fun_induction laneSum a₀ a₁ a₂ a₃ a₄ a₅ a₆ a₇ products with
  | case1 a₀ a₁ a₂ a₃ a₄ a₅ a₆ a₇ p₀ p₁ p₂ p₃ p₄ p₅ p₆ p₇ rest ih =>
      rw [ih]
      simp only [List.sum_cons]
      ring
  -- Fewer than eight products are left, which are added to the lanes.
  | case2 a₀ a₁ a₂ a₃ a₄ a₅ a₆ a₇ rest _ =>
      rw [foldl_add]
      ring

/-- The dot product is the sum of the products. -/
theorem laneDot_eq (u v : List K) : laneDot u v = (List.zipWith (· * ·) u v).sum := by
  rw [laneDot, laneSum_eq]
  simp

/-- The dot product with no entries. -/
@[simp]
theorem laneDot_nil (v : List K) : laneDot [] v = 0 := by
  simp [laneDot_eq]

/-- The same on the other side. -/
@[simp]
theorem laneDot_nil_right (u : List K) : laneDot u [] = 0 := by
  simp [laneDot_eq]

/-- The first two entries contribute their product. -/
@[simp]
theorem laneDot_cons (a b : K) (u v : List K) :
    laneDot (a :: u) (b :: v) = a * b + laneDot u v := by
  simp [laneDot_eq]

/-- A dot product is symmetric. -/
theorem laneDot_comm (u v : List K) : laneDot u v = laneDot v u := by
  rw [laneDot_eq, laneDot_eq, List.zipWith_comm_of_comm mul_comm]

/-- A vector of zeros contributes nothing. -/
theorem laneDot_zeros (n : Nat) (v : List K) : laneDot (zeros n) v = 0 := by
  induction n generalizing v with
  | zero => exact laneDot_nil v
  | succ n ih =>
      cases v with
      | nil => exact laneDot_nil_right _
      | cons b v =>
          have hrest : laneDot (List.replicate n 0) v = 0 := ih v
          simp [zeros, List.replicate_succ, hrest]

/-- A dot product is additive in its second vector. By induction on the
vectors of one length. -/
theorem laneDot_sub {v w : List K} (h : v.length = w.length) (u : List K) :
    laneDot u (List.zipWith (· - ·) v w) = laneDot u v - laneDot u w := by
  induction v generalizing u w with
  | nil =>
      cases w with
      | nil => simp
      | cons c w => cases h
  | cons b v ih =>
      cases w with
      | nil => cases h
      | cons c w =>
          -- The first vector may be shorter, and then nothing is left to pair.
          cases u with
          | nil => simp
          | cons a u =>
              simp [ih (Nat.succ.inj h)]
              ring

/-- It is additive in its first vector as well. -/
theorem laneDot_sub_left {u v : List K} (h : u.length = v.length) (w : List K) :
    laneDot (List.zipWith (· - ·) u v) w = laneDot u w - laneDot v w := by
  rw [laneDot_comm, laneDot_sub h, laneDot_comm w u, laneDot_comm w v]

/-- A factor can be taken out of a dot product. -/
theorem laneDot_map_mul (u v : List K) (a : K) :
    laneDot u (v.map (· * a)) = a * laneDot u v := by
  induction u generalizing v with
  | nil => simp
  | cons b u ih =>
      cases v with
      | nil => simp
      | cons c v =>
          simp [ih]
          ring

/-- What was added comes out when the sum is subtracted from. -/
theorem sub_of_add {u v : List K} (h : v.length = u.length) :
    List.zipWith (· - ·) (List.zipWith (· + ·) u v) u = v := by
  refine List.ext_getElem (by simp [h]) fun n _ _ => ?_
  simp

/-- Every entry of the zero vector is zero, those beyond its end included.
-/
theorem getD_zeros (n i : Nat) : (zeros n : List K).getD i 0 = 0 := by
  unfold zeros
  rw [List.getD_eq_getElem?_getD, List.getElem?_replicate]
  split <;> rfl

/-- The entries of `-v`. -/
theorem getD_neg (v : List K) (i : Nat) : (neg v).getD i 0 = -v.getD i 0 := by
  simp only [neg, List.getD_eq_getElem?_getD, List.getElem?_map]
  by_cases hi : i < v.length <;> simp [hi]

/-- The entries of a multiple of a vector. -/
theorem getD_map_mul (v : List K) (a : K) (i : Nat) :
    (v.map (· * a)).getD i 0 = v.getD i 0 * a := by
  simp only [List.getD_eq_getElem?_getD, List.getElem?_map]
  by_cases hi : i < v.length <;> simp [hi]

/-- The entries of a sum. Where one vector ends, so does the other. -/
theorem getD_add {u v : List K} (h : u.length = v.length) (i : Nat) :
    (List.zipWith (· + ·) u v).getD i 0 = u.getD i 0 + v.getD i 0 := by
  simp only [List.getD_eq_getElem?_getD, List.getElem?_zipWith]
  by_cases hi : i < v.length
  · have hu : i < u.length := h ▸ hi
    simp [hi, hu]
  · have hu : ¬ i < u.length := h ▸ hi
    simp [hi, hu]

/-- The entries of a difference. -/
theorem getD_sub {u v : List K} (h : u.length = v.length) (i : Nat) :
    (List.zipWith (· - ·) u v)[i]?.getD 0 = u[i]?.getD 0 - v[i]?.getD 0 := by
  rw [List.getElem?_zipWith]
  by_cases hi : i < v.length
  · have hu : i < u.length := h ▸ hi
    simp [hi, hu]
  · have hu : ¬ i < u.length := h ▸ hi
    simp [hi, hu]

/-- Changing one entry changes the dot product by its partner. -/
theorem laneDot_set {target v : List K} (h : target.length = v.length) {i : Nat}
    (hi : i < target.length) (change : K) :
    laneDot (target.set i (target[i] + change)) v = laneDot target v + change * v.getD i 0 := by
  -- The entry that changes is the head or lies in the tail.
  induction target generalizing v i with
  | nil => exact absurd hi (Nat.not_lt_zero _)
  | cons a target ih =>
      cases v with
      | nil => cases h
      | cons b v =>
          cases i with
          | zero =>
              simp
              ring
          | succ i =>
              have := ih (Nat.succ.inj h) (Nat.lt_of_succ_lt_succ hi)
              simp [this]
              ring

end Linear

namespace Selection

open Checked (Gives)

/-- Adding at positions in range, paired with a vector. -/
theorem gives_addAt_dot (alpha : K) {indices : List Nat} {v target : List K}
    (hv : v.length = indices.length) (htarget : ∀ i ∈ indices, i < target.length) :
    Gives (addAt alpha indices v target) fun result => result.length = target.length
      ∧ ∀ w, w.length = target.length → Linear.laneDot result w
        = Linear.laneDot target w + alpha * Linear.laneDot v (indices.map (w.getD · 0)) := by
  induction indices generalizing v target with
  | nil =>
      refine .of_eq rfl ⟨rfl, fun w _ => ?_⟩
      simp
  | cons i indices ih =>
      obtain ⟨hi, hrest⟩ := List.forall_mem_cons.1 htarget
      cases v with
      | nil => cases hv
      | cons entry v =>
          -- The first coordinate changes one entry, and the others start from there.
          have hlength : (target.set i (target[i] + alpha * entry)).length = target.length :=
            List.length_set
          simp only [addAt, List.getElem?_eq_getElem hi]
          refine (ih (Nat.succ.inj hv) fun j hj => ?_).mono fun result hresult => ?_
          · rw [hlength]
            exact hrest j hj
          · obtain ⟨hsize, hdot⟩ := hresult
            refine ⟨hsize.trans hlength, fun w hw => ?_⟩
            rw [hdot w (hw.trans hlength.symm), Linear.laneDot_set hw.symm hi, List.map_cons,
              Linear.laneDot_cons]
            ring

/-- Embedding a vector and selecting from one are adjoint. -/
theorem gives_scatterAdd_dot (selection : Selection) (alpha : K) {v target : List K}
    (hv : v.length = selection.size) (htarget : target.length = selection.dim) :
    Gives (selection.scatterAdd alpha v target) fun result => result.length = selection.dim
      ∧ ∀ w, w.length = selection.dim → Linear.laneDot result w
        = Linear.laneDot target w
          + alpha * Linear.laneDot v (selection.indices.map (w.getD · 0)) := by
  -- The selected coordinates lie within the target.
  rw [← htarget]
  refine gives_addAt_dot alpha hv fun i hi => ?_
  rw [htarget]
  exact selection.bounded i hi

end Selection

end InteriorPoint
