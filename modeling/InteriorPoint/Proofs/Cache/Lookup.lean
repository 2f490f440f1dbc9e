import InteriorPoint.Cache

/-!
# `InteriorPoint.Proofs.Cache.Lookup`: what a cache holds after an insertion

Insertion may drop results, and which ones depends on the order of
admission. Two facts hold whatever that order is, and soundness of
stored results needs no more: the new result is held afterwards
(`get?_insert_self`), and everything else that is held was held before
(`get?_of_insert`).
-/

set_option autoImplicit false

namespace InteriorPoint.Cache

variable {α β : Type} [DecidableEq α]

/-- To erase keys leaves the results of all others. -/
theorem get?_eraseAll (keys : List (Key α)) (entries : Table (Key α) β) (key : Key α) :
    (eraseAll entries keys).get? key = if key ∈ keys then none else entries.get? key := by
  unfold eraseAll
  -- The fold erases from the entries, so they are generalized.
  induction keys generalizing entries with
  | nil => simp
  | cons first rest ih =>
      rw [List.foldl_cons, ih, Table.get?_erase]
      by_cases hrest : key ∈ rest
      · simp [hrest]
      · by_cases hfirst : key = first <;> simp [hrest, hfirst]

/-- Making room invents nothing. -/
theorem get?_of_makeRoom {cache : Cache α β} {key : Key α} {result : β}
    (h : cache.makeRoom.get? key = some result) : cache.get? key = some result := by
  change (eraseAll cache.entries _).get? key = some result at h
  rw [get?_eraseAll] at h
  split at h
  · cases h
  · exact h

/-- What was entered is found. -/
theorem get?_insert_self (cache : Cache α β) (key : Key α) (result : β) :
    (cache.insert key result).get? key = some result := by
  unfold insert
  split <;> simp [get?, Table.get?_insert]

/-- What a cache holds after an insertion is the new result, or was held
before. -/
theorem get?_of_insert {cache : Cache α β} {key other : Key α} {result found : β}
    (h : (cache.insert key result).get? other = some found) :
    (other = key ∧ found = result) ∨ cache.get? other = some found := by
  by_cases hkey : other = key
  · -- Under the key itself the new result stands, whatever was there.
    subst hkey
    rw [get?_insert_self] at h
    cases h
    exact Or.inl ⟨rfl, rfl⟩
  · refine Or.inr ?_
    unfold insert at h
    split at h
    · change (cache.entries.insert key result).get? other = some found at h
      rw [Table.get?_insert, if_neg hkey] at h
      exact h
    · -- Room was made first, and that only takes away.
      change (cache.makeRoom.entries.insert key result).get? other = some found at h
      rw [Table.get?_insert, if_neg hkey] at h
      exact get?_of_makeRoom h

end InteriorPoint.Cache
