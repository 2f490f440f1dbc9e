import InteriorPoint.Engine.Store
import InteriorPoint.Quantity.Formula

/-!
# `InteriorPoint.Engine.Memory`: answering with stored results

`evaluate` answers a quantity from its cache, or executes its formula
and stores the result. The formula's own requests are answered in the
same way, so one request fills the caches of everything it needed.

A quantity that exists at both points is looked up in the cache of its
own point first. If that cache does not hold it, the cache of the other
point is consulted under the same key, and a result found there is
copied. The two points agree on the key exactly if they agree on all
inputs, as they do once a trial point has been accepted.

A formula that fails leaves behind what was stored on the way, and
nothing is stored for the failure itself.
-/

set_option autoImplicit false

namespace InteriorPoint

/-- What changes while requests are answered. -/
structure Memory (α : Type) where
  store : Store α := {}
  /-- How many slack entries were corrected, by family. -/
  adjusted : PerFamily Nat := ⟨0, 0, 0, 0⟩
  /-- What happened so far, in order. -/
  events : List (Event α) := []
  /-- The source of identities. -/
  supply : Supply := {}

/-- Computations that read and fill the memory. What they stored remains
if they fail. -/
abbrev Recall (α : Type) : Type → Type :=
  ExceptT (Error α) (StateM (Memory α))

namespace Memory

variable {α : Type}

/-- Adds an event to the record and counts corrected slacks. -/
def record (memory : Memory α) (event : Event α) : Memory α :=
  { memory with
    events := memory.events ++ [event]
    adjusted := match event with
      | .safeguarded count family _ => memory.adjusted.modify family (· + count)
      | _ => memory.adjusted }

/-- Places a result in storage of its own. -/
def place {β : Type} (value : β) : Recall α (Shared β) :=
  modifyGet fun memory =>
    let (result, supply) := Shared.place value memory.supply
    (result, { memory with supply })

/-- The cache of a slot. -/
def access {k : Kind} (slot : Slot k) : Cache.Access (Recall α) α (Kept α k) where
  read := return (← get).store.cache slot
  modify change := modify fun memory =>
    { memory with store := memory.store.setCache slot (change (memory.store.cache slot)) }
  missed key := modify fun memory => memory.record (.missed slot.name key)

variable [Scalar α]

/-- The result that the cache of the other point holds under a key, if
there is such a cache. -/
def fromCounterpart? {k : Kind} (slot : Slot k) (key : Key α) : Recall α (Option (Kept α k)) :=
  match slot.counterpart? with
  | some other => return (← (access other).read).get? key
  | none => return none

/-- The result under a key from the cache of a slot, from the cache of
the other point, or computed. -/
def fetch {k : Kind} (slot : Slot k) (key : Key α) (compute : Recall α (Carrier α k)) :
    Recall α (Kept α k) :=
  (access slot).getOrCompute key do
    match ← fromCounterpart? slot key with
    -- Both caches then share one storage.
    | some result => return result
    | none => place (← compute)

/-- Answers a quantity of rank below `bound`. -/
def evaluateBelow (setting : Setting α) :
    (bound : Nat) → {k : Kind} → (quantity : Quantity α k) → quantity.rank < bound →
      Recall α (Kept α k)
  | bound + 1, _, quantity, lower => do
    -- A request that cannot be met ends here and leaves no trace.
    let key ← setting.key quantity
    fetch quantity.slot key <|
      (quantity.formula setting).run (fun event => modify (·.record event)) fun part smaller =>
        Shared.value <$> evaluateBelow setting bound part
          (Nat.lt_of_lt_of_le smaller (Nat.le_of_lt_succ lower))

/-- Answers a quantity. -/
def evaluate (setting : Setting α) {k : Kind} (quantity : Quantity α k) : Recall α (Kept α k) :=
  evaluateBelow setting (quantity.rank + 1) quantity (Nat.lt_succ_self _)

end Memory

end InteriorPoint
