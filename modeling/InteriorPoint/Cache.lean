import InteriorPoint.Cache.Key
import InteriorPoint.Cache.Table
import InteriorPoint.Text.Quoted

/-!
# `InteriorPoint.Cache`: a bounded store of results

A cache holds at most `capacity` results, each under the key of its
inputs. When a result under a new key does not fit, the results that
were admitted first are dropped. Reading a result, or replacing it,
does not change when it was admitted.

Two records are kept side by side: the entries by key, and the queue of
keys in order of admission, oldest first.

`Access.getOrCompute` reads a cache that lives in the state of some
monad, and computes and stores the result if it is missing. The
computation runs in the same monad. It may use the cache itself, and if
the monad can fail and the computation does, nothing is stored.
-/

set_option autoImplicit false

namespace InteriorPoint

/-- A bounded store of results of type `β`. -/
structure Cache (α β : Type) where
  /-- What the cache is called in reports. -/
  name : String
  /-- How many results it may hold. -/
  capacity : Nat
  /-- The results. -/
  entries : Table (Key α) β
  /-- Their keys, in order of admission. -/
  queue : List (Key α)

namespace Cache

variable {α β : Type}

/-- A cache without results. It has room for at least one. -/
def empty (name : String) (capacity : Nat) : Cache α β where
  name := name
  capacity := max capacity 1
  entries := .empty
  queue := []

/-- The number of results held. -/
def size (cache : Cache α β) : Nat :=
  cache.entries.size

/-- A description of the cache on one line. -/
def describe (cache : Cache α β) : String :=
  "Cache \x7b name: " ++ Text.quote cache.name ++ ", capacity: " ++ toString cache.capacity
    ++ ", len: " ++ toString cache.size ++ " \x7d"

/-- The cache without its results. -/
def clear (cache : Cache α β) : Cache α β :=
  { cache with entries := .empty, queue := [] }

variable [DecidableEq α]

/-- The result under a key. -/
def get? (cache : Cache α β) (key : Key α) : Option β :=
  cache.entries.get? key

/-- Drops the results under the given keys. -/
def eraseAll (entries : Table (Key α) β) (keys : List (Key α)) : Table (Key α) β :=
  keys.foldl Table.erase entries

/-- How many of the oldest results have to go before another fits. -/
def overflow (cache : Cache α β) : Nat :=
  cache.queue.length + 1 - cache.capacity

/-- Drops the oldest results until another one fits. -/
def makeRoom (cache : Cache α β) : Cache α β :=
  { cache with
    entries := eraseAll cache.entries (cache.queue.take cache.overflow)
    queue := cache.queue.drop cache.overflow }

/-- Stores a result. Under a key that is held it replaces the old
result; under a new key it is admitted last. -/
def insert (cache : Cache α β) (key : Key α) (result : β) : Cache α β :=
  if (cache.get? key).isSome then
    -- The key keeps its place in the queue.
    { cache with entries := cache.entries.insert key result }
  else
    { cache.makeRoom with
      entries := cache.makeRoom.entries.insert key result
      queue := cache.makeRoom.queue ++ [key] }

/-- Drops every result that depends on an input. -/
def invalidate (cache : Cache α β) (tag : Tag) : Cache α β :=
  { cache with
    entries := eraseAll cache.entries (cache.queue.filter (·.dependsOn tag))
    queue := cache.queue.filter fun key => !key.dependsOn tag }

/-- How a computation in the monad `m` reaches one cache. -/
structure Access (m : Type → Type) (α β : Type) where
  /-- Reads the cache. -/
  read : m (Cache α β)
  /-- Replaces the cache by its image. -/
  modify : (Cache α β → Cache α β) → m Unit
  /-- Reports that the result under a key is missing. -/
  missed : Key α → m Unit

/-- The result under a key, computed and stored if the cache does not
hold it. -/
def Access.getOrCompute {m : Type → Type} [Monad m] (access : Access m α β) (key : Key α)
    (compute : m β) : m β := do
  match (← access.read).get? key with
  | some result => return result
  | none =>
    access.missed key
    -- The computation may change this cache, so it is read anew below.
    let result ← compute
    access.modify (·.insert key result)
    return result

end Cache

end InteriorPoint
