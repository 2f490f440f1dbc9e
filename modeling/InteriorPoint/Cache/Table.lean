/-!
# `InteriorPoint.Cache.Table`: finite maps with few entries

A map from keys to values as a list of pairs with at most one pair per
key. The order of the pairs is of no account; what an operation does is
said by its effect on `get?`.
-/

set_option autoImplicit false

namespace InteriorPoint

/-- A finite map. -/
structure Table (κ β : Type) where
  pairs : List (κ × β) := []

namespace Table

variable {κ β : Type}

/-- The map without entries. -/
def empty : Table κ β :=
  {}

/-- The keys that have an entry. -/
def keys (table : Table κ β) : List κ :=
  table.pairs.map Prod.fst

/-- The number of entries. -/
def size (table : Table κ β) : Nat :=
  table.pairs.length

variable [DecidableEq κ]

/-- The value of a key. -/
def get? (table : Table κ β) (key : κ) : Option β :=
  (table.pairs.find? fun pair => pair.1 = key).map Prod.snd

/-- Drops the entry of a key. -/
def erase (table : Table κ β) (key : κ) : Table κ β :=
  ⟨table.pairs.filter fun pair => pair.1 ≠ key⟩

/-- Gives a key a value, in place of the one it had. -/
def insert (table : Table κ β) (key : κ) (value : β) : Table κ β :=
  ⟨(key, value) :: (table.erase key).pairs⟩

/-- To drop an entry changes what is under its key and nothing else. -/
theorem get?_erase (table : Table κ β) (key other : κ) :
    (table.erase key).get? other = if other = key then none else table.get? other := by
  unfold get? erase
  induction table.pairs with
  | nil => simp
  | cons pair pairs ih =>
    by_cases erased : pair.1 = key <;> by_cases wanted : pair.1 = other <;> grind

/-- So does giving a key a value. -/
theorem get?_insert (table : Table κ β) (key other : κ) (value : β) :
    (table.insert key value).get? other = if other = key then some value else table.get? other := by
  by_cases same : other = key
  · simp [get?, insert, same]
  · -- The new pair stands first and is passed over.
    have skipped : (table.insert key value).get? other = (table.erase key).get? other := by
      simp [get?, insert, Ne.symm same]
    rw [skipped, get?_erase, if_neg same, if_neg same]

end Table

end InteriorPoint
