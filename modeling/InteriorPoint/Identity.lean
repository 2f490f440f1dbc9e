/-!
# `InteriorPoint.Identity`: vectors that know whether they are the same

Vectors are compared by identity and not by their entries. A `Tag` is
drawn from a `Supply` that never gives out the same number twice, so
two vectors have the same tag only if one was obtained from the other
without change. The storage of a vector has an address from the same
supply; a copy keeps both.

The tags increase with the time at which they are drawn, and only their
order and equality carry meaning.
-/

set_option autoImplicit false

namespace InteriorPoint

/-- The source of tags and addresses: the next number to give out. -/
structure Supply where
  next : Nat := 1
deriving DecidableEq, Repr

/-- Computations that draw from the supply. -/
abbrev Drawing : Type → Type :=
  StateM Supply

/-- The number that a supply gives out next. -/
def Supply.draw : Drawing Nat :=
  fun supply => (supply.next, ⟨supply.next + 1⟩)

/-- An identity, greater than every identity drawn before it. -/
structure Tag where
  number : Nat
deriving DecidableEq, Repr

/-- An identity that was never given out before. -/
def Tag.fresh : Drawing Tag := do
  return ⟨← Supply.draw⟩

/-- The order in which two tags were drawn. -/
instance : Ord Tag where
  compare a b := compare a.number b.number

/-- A read-only value in a storage of its own. Copies share the
address. -/
structure Shared (β : Type) where
  address : Nat
  value : β
deriving DecidableEq, Repr

/-- Places a value in new storage. -/
def Shared.place {β : Type} (value : β) : Drawing (Shared β) := do
  return ⟨← Supply.draw, value⟩

/-- A read-only vector with an identity. -/
structure TaggedVector (α : Type) where
  tag : Tag
  storage : Shared (List α)
deriving DecidableEq, Repr

namespace TaggedVector

variable {α : Type}

/-- A vector with the given entries and a new identity. -/
def ofList (entries : List α) : Drawing (TaggedVector α) := do
  let tag ← Tag.fresh
  let storage ← Shared.place entries
  return { tag, storage }

/-- A vector of `n` equal entries with a new identity. -/
def replicate (n : Nat) (entry : α) : Drawing (TaggedVector α) :=
  ofList (List.replicate n entry)

/-- A vector of `n` zeros with a new identity. -/
def zeros [Zero α] (n : Nat) : Drawing (TaggedVector α) :=
  replicate n 0

/-- The entries. -/
def entries (v : TaggedVector α) : List α :=
  v.storage.value

/-- The number of entries. -/
def size (v : TaggedVector α) : Nat :=
  v.entries.length

/-- Both vectors carry the same identity. -/
def SameIdentity (v w : TaggedVector α) : Prop :=
  v.tag = w.tag

/-- Identities can be compared. -/
instance (v w : TaggedVector α) : Decidable (SameIdentity v w) :=
  inferInstanceAs (Decidable (_ = _))

end TaggedVector

end InteriorPoint
