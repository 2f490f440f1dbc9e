import Mathlib.Tactic.Ring
import InteriorPoint.Linear.Matrix
import InteriorPoint.Proofs.Linear.Exact

/-!
# `InteriorPoint.Proofs.Linear.Adjoint`: the two products with a matrix

`A v` goes along the rows, from left to right, and `Aᵀ w` goes down the
columns, in eight lanes. In exact arithmetic an entry of either is a dot
product (`rowProduct_eq`, and the definition of the other), whatever the
length of the row or column.

From there on the two are compared without regard to how they
accumulate. Both are linear, since the dot product is
(`Linear.laneDot_combination`), and they are adjoint: pairing `w` with
`A v` and pairing `Aᵀ w` with `v` gives the same number. This goes by
induction on the rows (`laneDot_mulRows`). A further row adds a multiple
of itself to the transposed product.

`AdjointPair` says this of two maps between vectors of two sizes.
-/

set_option autoImplicit false

namespace InteriorPoint

variable {K : Type} [Field K] [LinearOrder K] [ExactFunctions K]

namespace Linear

/-- `a * u + b * v`. -/
def combination (a : K) (u : List K) (b : K) (v : List K) : List K :=
  List.zipWith (fun x y => a * x + b * y) u v

/-- A linear combination of two images of one list. -/
theorem combination_map {β : Type} (a b : K) (f g : β → K) (entries : List β) :
    combination a (entries.map f) b (entries.map g) = entries.map fun x => a * f x + b * g x := by
  rw [combination, List.zipWith_map, List.zipWith_self]

/-- A dot product is linear in its second vector. By induction on the
first one. -/
theorem laneDot_combination {v v' : List K} (hlength : v.length = v'.length) (u : List K)
    (a b : K) : laneDot u (combination a v b v') = a * laneDot u v + b * laneDot u v' := by
  unfold combination
  induction u generalizing v v' with
  | nil => simp
  | cons c u ih =>
      cases v with
      | nil =>
          cases v' with
          | nil => simp
          | cons y v' => cases hlength
      | cons x v =>
          cases v' with
          | nil => cases hlength
          | cons y v' =>
              rw [List.zipWith_cons_cons, laneDot_cons, ih (Nat.succ.inj hlength), laneDot_cons,
                laneDot_cons]
              ring

end Linear

/-- Two maps, from vectors of size `n` to vectors of size `m` and back,
that are linear and adjoint to each other. -/
structure AdjointPair (n m : Nat) (forth back : List K → List K) : Prop where
  length_forth : ∀ v, v.length = n → (forth v).length = m
  length_back : ∀ w, w.length = m → (back w).length = n
  forth_combination : ∀ (a b : K) (v v' : List K), v.length = n → v'.length = n →
    forth (Linear.combination a v b v') = Linear.combination a (forth v) b (forth v')
  back_combination : ∀ (a b : K) (w w' : List K), w.length = m → w'.length = m →
    back (Linear.combination a w b w') = Linear.combination a (back w) b (back w')
  /-- Both dot products are defined, and they are the same number. -/
  adjoint : ∀ v w, v.length = n → w.length = m →
    ∃ value : K, Linear.dot w (forth v) = .ok value ∧ Linear.dot (back w) v = .ok value

namespace Matrix

/-- The running sum of products along a row. -/
theorem foldl_mul_add (entries : List (K × K)) (start : K) :
    entries.foldl (fun y entry => entry.1 * entry.2 + y) start
      = start + (entries.map fun entry => entry.1 * entry.2).sum := by
  induction entries generalizing start with
  | nil => simp
  | cons entry entries ih =>
      rw [List.foldl_cons, ih, List.map_cons, List.sum_cons]
      ring

/-- An entry of `A v` is the dot product of a row. -/
theorem rowProduct_eq (row v : List K) : rowProduct row v = Linear.laneDot row v := by
  cases row with
  | nil => exact (Linear.laneDot_nil v).symm
  | cons a row =>
      cases v with
      | nil => exact (Linear.laneDot_nil_right _).symm
      -- The first product is where the sum starts.
      | cons x v =>
          rw [rowProduct, foldl_mul_add, Linear.laneDot_cons, Linear.laneDot_eq,
            List.map_zip_eq_zipWith]
          rfl

/-- The entries of `A v`. -/
def times (A : Matrix K) (v : List K) : List K :=
  A.rows.map (Linear.laneDot · v)

/-- The entries of `Aᵀ w`. -/
def transposeTimes (A : Matrix K) (w : List K) : List K :=
  (List.range A.columns).map fun j => Linear.laneDot (A.column j) w

/-- The product with a vector of the right size. -/
theorem mulVec_eq_ok {A : Matrix K} {v : List K} (hv : v.length = A.columns) :
    A.mulVec v = .ok (A.times v) := by
  rw [mulVec, if_pos hv, times, List.map_congr_left fun row _ => rowProduct_eq row v]

/-- The product with the transposed matrix. -/
theorem transposeMulVec_eq_ok {A : Matrix K} {w : List K} (hw : w.length = A.rowCount) :
    A.transposeMulVec w = .ok (A.transposeTimes w) :=
  if_pos hw

/-- Pairing with the products of all rows is pairing with the products of
all columns. -/
theorem laneDot_mulRows {n : Nat} (rows : List (List K)) (hrows : ∀ row ∈ rows, row.length = n)
    (v w : List K) :
    Linear.laneDot w (rows.map (Linear.laneDot · v))
      = Linear.laneDot
          ((List.range n).map fun j => Linear.laneDot (rows.map (·.getD j 0)) w) v := by
  induction rows generalizing w with
  | nil => simpa [Linear.zeros] using (Linear.laneDot_zeros n v).symm
  | cons row rows ih =>
      obtain ⟨hrow, hrest⟩ := List.forall_mem_cons.1 hrows
      cases w with
      | nil => simpa [Linear.zeros] using (Linear.laneDot_zeros n v).symm
      | cons b w =>
          -- The first row, as a list of entries that are looked up.
          have hentries : row = (List.range n).map (row.getD · 0) := by
            refine List.ext_getElem (by simp [hrow]) fun j hj _ => ?_
            simp [List.getD_eq_getElem?_getD, hj]
          have hsum : (List.range n).map
                (fun j => Linear.laneDot ((row :: rows).map (·.getD j 0)) (b :: w))
              = Linear.combination b row 1
                ((List.range n).map fun j => Linear.laneDot (rows.map (·.getD j 0)) w) := by
            -- Only the row in the combination is to be written out.
            nth_rewrite 2 [hentries]
            rw [Linear.combination_map]
            refine List.map_congr_left fun j _ => ?_
            rw [List.map_cons, Linear.laneDot_cons]
            ring
          have hlength : row.length = ((List.range n).map fun j =>
              Linear.laneDot (rows.map (·.getD j 0)) w).length := by simp [hrow]
          -- The first row contributes its pairing with `v`, once for `b`.
          rw [hsum, Linear.laneDot_comm _ v, Linear.laneDot_combination hlength,
            Linear.laneDot_comm v, Linear.laneDot_comm v, ← ih hrest w, List.map_cons,
            Linear.laneDot_cons, one_mul]

/-- The two products with a matrix, of any shape, are linear and adjoint
to each other. -/
theorem adjointPair (A : Matrix K) : AdjointPair A.columns A.rowCount A.times A.transposeTimes where
  length_forth v _ := List.length_map _
  length_back w _ := (List.length_map _).trans List.length_range
  forth_combination a b v v' hv hv' := by
    rw [times, times, times, Linear.combination_map]
    exact List.map_congr_left fun row _ => Linear.laneDot_combination (hv.trans hv'.symm) row a b
  back_combination a b w w' hw hw' := by
    rw [transposeTimes, transposeTimes, transposeTimes, Linear.combination_map]
    exact List.map_congr_left fun j _ =>
      Linear.laneDot_combination (hw.trans hw'.symm) (A.column j) a b
  adjoint v w hv hw := by
    -- Both orders of summation come to the same in exact arithmetic.
    have hback : (A.transposeTimes w).length = v.length := by simp [transposeTimes, hv]
    refine ⟨Linear.laneDot w (A.times v), if_pos (hw.trans (List.length_map _).symm), ?_⟩
    rw [Linear.dot, if_pos hback, times, laneDot_mulRows A.rows A.row_length v w]
    rfl

end Matrix

end InteriorPoint
