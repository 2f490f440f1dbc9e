import InteriorPoint.Cache
import InteriorPoint.Quantity

/-!
# `InteriorPoint.Engine.Store`: the caches of all quantities

A `Store` holds one cache per slot. Results of one kind have one type,
so there is a table of caches for each kind. A slot that is not in its
table has an empty cache of the capacity of the slot.
-/

set_option autoImplicit false

namespace InteriorPoint

/-- A result as it is kept: in a storage of its own, shared by all who
received it. -/
abbrev Kept (α : Type) (k : Kind) : Type :=
  Shared (Carrier α k)

/-- The caches of one kind of quantity. -/
abbrev Caches (α : Type) (k : Kind) : Type :=
  Table (Slot k) (Cache α (Kept α k))

/-- The caches of all quantities. -/
structure Store (α : Type) where
  scalars : Caches α .scalar := .empty
  vectors : Caches α .vector := .empty
  matrices : Caches α .matrix := .empty
  operators : Caches α .operator := .empty

namespace Store

variable {α : Type}

/-- The caches of a kind. -/
def caches (store : Store α) : (k : Kind) → Caches α k
  | .scalar => store.scalars
  | .vector => store.vectors
  | .matrix => store.matrices
  | .operator => store.operators

/-- Replaces the caches of a kind. -/
def setCaches (store : Store α) : {k : Kind} → Caches α k → Store α
  | .scalar, scalars => { store with scalars }
  | .vector, vectors => { store with vectors }
  | .matrix, matrices => { store with matrices }
  | .operator, operators => { store with operators }

/-- The cache of a slot. -/
def cache (store : Store α) {k : Kind} (slot : Slot k) : Cache α (Kept α k) :=
  ((store.caches k).get? slot).getD (.empty slot.name slot.capacity)

/-- Replaces the cache of a slot. -/
def setCache (store : Store α) {k : Kind} (slot : Slot k) (cache : Cache α (Kept α k)) :
    Store α :=
  store.setCaches ((store.caches k).insert slot cache)

/-- The cache that was put into a slot is there. -/
theorem cache_setCache_self (store : Store α) {k : Kind} (slot : Slot k)
    (cache : Cache α (Kept α k)) : (store.setCache slot cache).cache slot = cache := by
  cases k <;> simp [Store.cache, setCache, setCaches, caches, Table.get?_insert]

/-- The caches of the other slots are as before. -/
theorem cache_setCache_of_ne (store : Store α) {k : Kind} {slot other : Slot k}
    (distinct : other ≠ slot) (cache : Cache α (Kept α k)) :
    (store.setCache slot cache).cache other = store.cache other := by
  cases k <;> simp [Store.cache, setCache, setCaches, caches, Table.get?_insert, distinct]

end Store

end InteriorPoint
