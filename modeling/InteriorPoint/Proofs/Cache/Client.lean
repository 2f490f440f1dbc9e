import InteriorPoint.Proofs.Cache.Admission

/-!
# `InteriorPoint.Proofs.Cache.Client`: programs that use a cache

A computation that is passed to `Access.getOrCompute` may use the very
cache that asked for it: it may fill it, empty it, or ask under the same
key. `Client` is the type of all programs over one cache. The computation
of a client is a client again, so they nest to any finite depth, and what
comes next may depend on everything that was returned before.

A client runs against any implementation of the operations
(`Cache.Operations`). One is the cache itself, with
`Access.getOrCompute` for the computations that cannot fail and for those
that can. The other is the list of admissions. What a client gets to see
is written down on the way (`Journal`), and so is every store.

`Related` says that two runs from matching journals return matching values
and end in matching journals. Each operation of the cache is related to
that of the list, provided the computations passed to it are related, and
the induction over the client does the rest (`Client.related_run`).
-/

set_option autoImplicit false

namespace InteriorPoint

/-- A program that uses one cache and returns a value. -/
inductive Client (α β : Type) : Type → Type 1 where
  | done {γ : Type} (value : γ) : Client α β γ
  | get? {γ : Type} (key : Key α) (next : Option β → Client α β γ) : Client α β γ
  | size {γ : Type} (next : Nat → Client α β γ) : Client α β γ
  | insert {γ : Type} (key : Key α) (result : β) (next : Client α β γ) : Client α β γ
  | invalidate {γ : Type} (tag : Tag) (next : Client α β γ) : Client α β γ
  | clear {γ : Type} (next : Client α β γ) : Client α β γ
  /-- Reads a result, and has it computed if it is missing. -/
  | getOrCompute {γ : Type} (key : Key α) (compute : Client α β β) (next : β → Client α β γ) :
      Client α β γ
  /-- The computation may fail. -/
  | tryGetOrCompute {γ ε : Type} (key : Key α) (compute : Client α β (Except ε β))
      (next : Except ε β → Client α β γ) : Client α β γ

/-- What a client sees of its cache. -/
inductive Observation (α β : Type) where
  /-- What was read under a key. -/
  | found (result : Option β)
  | counted (size : Nat)
  /-- The computation for a key starts. -/
  | computes (key : Key α)
  /-- What was read or computed, or nothing if the computation failed. -/
  | returned (result : Option β)

/-- A store of results with a record of its use. -/
structure Journal (σ α β : Type) where
  store : σ
  /-- All stores so far, the present one last. -/
  history : List σ := [store]
  observations : List (Observation α β) := []

/-- Computations on a store that is recorded. -/
abbrev Logged (σ α β : Type) : Type → Type :=
  StateM (Journal σ α β)

namespace Logged

variable {σ α β : Type}

/-- Writes an observation down. -/
def observe (observation : Observation α β) : Logged σ α β Unit :=
  modify fun journal =>
    { journal with observations := journal.observations ++ [observation] }

/-- Changes the store and keeps the new one in the history. -/
def write (f : σ → σ) : Logged σ α β Unit :=
  modify fun journal =>
    { journal with store := f journal.store, history := journal.history ++ [f journal.store] }

end Logged

open Logged

/-- The operations of a cache in a monad. -/
structure Cache.Operations (m : Type → Type) (α β : Type) where
  get? : Key α → m (Option β)
  size : m Nat
  insert : Key α → β → m Unit
  invalidate : Tag → m Unit
  clear : m Unit
  getOrCompute : Key α → m β → m β
  tryGetOrCompute {ε : Type} : Key α → m (Except ε β) → m (Except ε β)

/-- Runs a client and writes down what it sees. -/
def Client.run {σ α β : Type} (operations : Cache.Operations (Logged σ α β) α β) :
    {γ : Type} → Client α β γ → Logged σ α β γ
  | _, .done value => return value
  | _, .get? key next => do
    let result ← operations.get? key
    observe (.found result)
    (next result).run operations
  | _, .size next => do
    let size ← operations.size
    observe (.counted size)
    (next size).run operations
  | _, .insert key result next => do
    operations.insert key result
    next.run operations
  | _, .invalidate tag next => do
    operations.invalidate tag
    next.run operations
  | _, .clear next => do
    operations.clear
    next.run operations
  | _, .getOrCompute key compute next => do
    let result ← operations.getOrCompute key do
      observe (.computes key)
      compute.run operations
    observe (.returned (some result))
    (next result).run operations
  | _, .tryGetOrCompute key compute next => do
    let result ← operations.tryGetOrCompute key do
      observe (.computes key)
      compute.run operations
    observe (.returned result.toOption)
    (next result).run operations

/-- How a computation that can fail reaches a cache. -/
def Cache.Access.exceptT {m : Type → Type} [Monad m] {α β : Type} (access : Cache.Access m α β)
    (ε : Type) : Cache.Access (ExceptT ε m) α β where
  read := ExceptT.lift access.read
  modify f := ExceptT.lift (access.modify f)
  missed key := ExceptT.lift (access.missed key)

variable {α β : Type} [DecidableEq α]

/-- A computation that can fail is run if the result is missing, and its
result is stored unless it fails. -/
theorem Cache.Access.run_getOrCompute_exceptT {m : Type → Type} [Monad m] [LawfulMonad m]
    (access : Cache.Access m α β) {ε : Type} (key : Key α) (x : m (Except ε β)) :
    ((access.exceptT ε).getOrCompute key (ExceptT.mk x)).run = do
      match (← access.read).get? key with
      | some result => return .ok result
      | none =>
        access.missed key
        match ← x with
        | .ok result =>
          access.modify (·.insert key result)
          return .ok result
        | .error error => return .error error := by
  rw [Access.getOrCompute, ExceptT.run_bind]
  show ExceptT.run (ExceptT.lift access.read) >>= _ = _
  rw [ExceptT.run_lift, bind_map_left]
  -- Reading cannot fail, so what follows is a case distinction in both programs.
  refine congrArg (access.read >>= ·) (funext fun cache => ?_)
  cases hget : cache.get? key with
  | some result => simp only [hget, ExceptT.run_pure]
  | none =>
      simp only [hget, ExceptT.run_bind, Access.exceptT, ExceptT.run_lift, bind_map_left,
        ExceptT.run_mk]
      refine congrArg (access.missed key >>= ·) (funext fun _ => ?_)
      refine congrArg (x >>= ·) (funext fun outcome => ?_)
      cases outcome with
      | ok result => simp only [ExceptT.run_pure]
      | error error => rfl

namespace Cache

/-- How a logged computation reaches its cache. -/
def logged : Access (Logged (Cache α β) α β) α β where
  read := return (← get).store
  modify := write
  missed _ := return ()

/-- The operations of the cache. -/
def operations : Operations (Logged (Cache α β) α β) α β where
  get? key := return (← get).store.get? key
  size := return (← get).store.size
  insert key result := write (·.insert key result)
  invalidate tag := write (·.invalidate tag)
  clear := write (·.clear)
  getOrCompute key compute := logged.getOrCompute key compute
  tryGetOrCompute {ε} key compute :=
    ((logged.exceptT ε).getOrCompute key (ExceptT.mk compute)).run

end Cache

/-- The operations on a list of admissions with room for `capacity`
results. -/
def Admissions.operations (capacity : Nat) :
    Cache.Operations (Logged (Admissions α β) α β) α β where
  get? key := return (← get).store.lookup key
  size := return (← get).store.length
  insert key result := write (·.enter capacity key result)
  invalidate tag := write (·.without tag)
  clear := write fun _ => []
  getOrCompute key compute := do
    match (← get).store.lookup key with
    | some result => return result
    | none =>
      let result ← compute
      write (·.enter capacity key result)
      return result
  tryGetOrCompute key compute := do
    match (← get).store.lookup key with
    | some result => return .ok result
    | none =>
      match ← compute with
      | .ok result =>
        write (·.enter capacity key result)
        return .ok result
      | .error error => return .error error

/-! ### Runs from matching journals -/

/-- The journals of a cache and of a list: the same observations, and
every cache holds what the list holds. -/
structure Journal.Matches (capacity : Nat) (cached : Journal (Cache α β) α β)
    (listed : Journal (Admissions α β) α β) : Prop where
  store : cached.store.capacity = capacity ∧ cached.store.Represents listed.store
  history : List.Forall₂ (fun cache pairs => cache.capacity = capacity ∧ cache.Represents pairs)
    cached.history listed.history
  observations : cached.observations = listed.observations

/-- Runs from matching journals return values that stand in a relation,
and end in matching journals. -/
def Related (capacity : Nat) {γ δ : Type} (relation : γ → δ → Prop)
    (x : Logged (Cache α β) α β γ) (y : Logged (Admissions α β) α β δ) : Prop :=
  ∀ cached listed, Journal.Matches capacity cached listed →
    relation (x.run cached).1 (y.run listed).1
      ∧ Journal.Matches capacity (x.run cached).2 (y.run listed).2

section Rules

omit [DecidableEq α]

variable {capacity : Nat} {γ δ γ' δ' : Type} {relation : γ → δ → Prop} {relation' : γ' → δ' → Prop}

/-- Values in relation are returned without touching the journals. -/
theorem related_pure {value : γ} {value' : δ} (h : relation value value') :
    Related (α := α) (β := β) capacity relation (pure value) (pure value') :=
  fun _ _ hmatch => ⟨h, hmatch⟩

/-- Related programs followed by related programs are related. -/
theorem Related.bind {x : Logged (Cache α β) α β γ} {y : Logged (Admissions α β) α β δ}
    {f : γ → Logged (Cache α β) α β γ'} {g : δ → Logged (Admissions α β) α β δ'}
    (h : Related capacity relation x y)
    (hnext : ∀ value value', relation value value' →
      Related capacity relation' (f value) (g value')) :
    Related capacity relation' (x >>= f) (y >>= g) := by
  intro cached listed hmatch
  obtain ⟨hvalue, hmiddle⟩ := h cached listed hmatch
  exact hnext _ _ hvalue _ _ hmiddle

/-- Reading both journals gives matching ones. -/
theorem related_get :
    Related (α := α) (β := β) capacity (Journal.Matches capacity) get get :=
  fun _ _ hmatch => ⟨hmatch, hmatch⟩

/-- Both sides may write the same observation down. -/
theorem related_observe (observation : Observation α β) :
    Related capacity Eq (observe observation) (observe observation) := by
  intro cached listed hmatch
  refine ⟨rfl, hmatch.store, hmatch.history, ?_⟩
  show cached.observations ++ [observation] = listed.observations ++ [observation]
  rw [hmatch.observations]

/-- An operation that does the same to the cache and to the list. -/
theorem related_write {f : Cache α β → Cache α β} {g : Admissions α β → Admissions α β}
    (h : ∀ cache pairs, cache.capacity = capacity → cache.Represents pairs →
      (f cache).capacity = capacity ∧ (f cache).Represents (g pairs)) :
    Related capacity Eq (write f) (write g) := by
  intro cached listed hmatch
  have hstore := h _ _ hmatch.store.1 hmatch.store.2
  refine ⟨rfl, hstore, ?_, hmatch.observations⟩
  -- The new stores match, and those before them did already.
  exact List.rel_append hmatch.history (.cons hstore .nil)

end Rules

/-! ### The operations -/

section Operations

variable {capacity : Nat}

/-- Both sides hold the same result under a key. -/
theorem Journal.Matches.get?_eq {cached : Journal (Cache α β) α β}
    {listed : Journal (Admissions α β) α β} (h : Journal.Matches capacity cached listed)
    (key : Key α) : cached.store.get? key = listed.store.lookup key :=
  h.store.2.get?_eq key

/-- Both sides find the same result. -/
theorem related_get? (key : Key α) :
    Related (β := β) capacity Eq (Cache.operations.get? key)
      ((Admissions.operations capacity).get? key) :=
  related_get.bind fun _ _ hmatch => related_pure (hmatch.get?_eq key)

/-- Both sides count the same. -/
theorem related_size :
    Related (α := α) (β := β) capacity Eq Cache.operations.size
      (Admissions.operations capacity).size :=
  related_get.bind fun _ _ hmatch => related_pure hmatch.store.2.size_eq

/-- Both sides enter the result. -/
theorem related_insert (key : Key α) (result : β) :
    Related capacity Eq (Cache.operations.insert key result)
      ((Admissions.operations capacity).insert key result) := by
  apply related_write
  rintro cache pairs rfl hrep
  exact ⟨Cache.capacity_insert cache key result, hrep.insert key result⟩

/-- Both sides drop the results that depend on the input. -/
theorem related_invalidate (tag : Tag) :
    Related (α := α) (β := β) capacity Eq (Cache.operations.invalidate tag)
      ((Admissions.operations capacity).invalidate tag) :=
  related_write fun _ _ hcapacity hrep => ⟨hcapacity, hrep.invalidate tag⟩

/-- Both sides drop everything. -/
theorem related_clear :
    Related (α := α) (β := β) capacity Eq Cache.operations.clear
      (Admissions.operations capacity).clear :=
  related_write fun _ _ hcapacity hrep => ⟨hcapacity, hrep.clear⟩

/-- Both sides have the result, or both compute it and enter it. -/
theorem Related.getOrCompute {key : Key α} {x : Logged (Cache α β) α β β}
    {y : Logged (Admissions α β) α β β} (h : Related capacity Eq x y) :
    Related capacity Eq (Cache.operations.getOrCompute key x)
      ((Admissions.operations capacity).getOrCompute key y) := by
  show Related capacity Eq (get >>= fun journal => match journal.store.get? key with
    | some result => pure result
    | none => do
      let result ← x
      write (·.insert key result)
      return result) _
  refine related_get.bind fun cached listed hmatch => ?_
  rw [hmatch.get?_eq key]
  cases listed.store.lookup key with
  | some result => exact related_pure rfl
  | none =>
      -- The computation may itself have changed both stores; they still match.
      refine h.bind ?_
      rintro result _ rfl
      exact (related_insert key result).bind fun _ _ _ => related_pure rfl

/-- A computation that can fail is run if the result is missing, and its
result is stored unless it fails. -/
theorem tryGetOrCompute_eq {ε : Type} (key : Key α) (x : Logged (Cache α β) α β (Except ε β)) :
    Cache.operations.tryGetOrCompute key x = do
      match (← get).store.get? key with
      | some result => return .ok result
      | none =>
        match ← x with
        | .ok result =>
          write (·.insert key result)
          return .ok result
        | .error error => return .error error :=
  Cache.logged.run_getOrCompute_exceptT key x

/-- If the computation fails, neither side stores anything. -/
theorem Related.tryGetOrCompute {ε : Type} {key : Key α} {x : Logged (Cache α β) α β (Except ε β)}
    {y : Logged (Admissions α β) α β (Except ε β)} (h : Related capacity Eq x y) :
    Related capacity Eq (Cache.operations.tryGetOrCompute key x)
      ((Admissions.operations capacity).tryGetOrCompute key y) := by
  rw [tryGetOrCompute_eq]
  -- Both look the key up first, and find the same.
  refine related_get.bind fun cached listed hmatch => ?_
  rw [hmatch.get?_eq key]
  cases listed.store.lookup key with
  | some result => exact related_pure rfl
  | none =>
      refine h.bind ?_
      -- The computations end alike, and only a result is entered.
      rintro (error | result) _ rfl
      · exact related_pure rfl
      · exact (related_insert key result).bind fun _ _ _ => related_pure rfl

end Operations

/-! ### Clients -/

/-- A client run against the cache is related to the same client run
against the list. -/
theorem Client.related_run {capacity : Nat} {γ : Type} (client : Client α β γ) :
    Related capacity Eq (client.run Cache.operations)
      (client.run (Admissions.operations capacity)) := by
  -- The computation of a client is a client, so it has an induction hypothesis of its own.
  induction client with
  | done value => exact related_pure rfl
  | get? key next ih =>
      refine (related_get? key).bind ?_
      rintro result _ rfl
      exact (related_observe _).bind fun _ _ _ => ih result
  | size next ih =>
      refine related_size.bind ?_
      rintro size _ rfl
      exact (related_observe _).bind fun _ _ _ => ih size
  | insert key result next ih => exact (related_insert key result).bind fun _ _ _ => ih
  | invalidate tag next ih => exact (related_invalidate tag).bind fun _ _ _ => ih
  | clear next ih => exact related_clear.bind fun _ _ _ => ih
  | getOrCompute key compute next ihcompute ih =>
      -- The observation belongs to the computation: it is made only on a miss.
      have hcompute := (related_observe (.computes key)).bind fun _ _ _ => ihcompute
      refine hcompute.getOrCompute.bind ?_
      rintro result _ rfl
      exact (related_observe _).bind fun _ _ _ => ih result
  | tryGetOrCompute key compute next ihcompute ih =>
      have hcompute := (related_observe (.computes key)).bind fun _ _ _ => ihcompute
      refine hcompute.tryGetOrCompute.bind ?_
      rintro outcome _ rfl
      exact (related_observe _).bind fun _ _ _ => ih outcome

/-- After a result was computed, the cache holds it, whatever the
computation did. -/
theorem get?_getOrCompute (key : Key α) (compute : Logged (Cache α β) α β β)
    (journal : Journal (Cache α β) α β) :
    ((Cache.operations.getOrCompute key compute).run journal).2.store.get? key
      = some ((Cache.operations.getOrCompute key compute).run journal).1 := by
  -- The lookup reads the store of the journal.
  have hrun : (Cache.operations.getOrCompute key compute).run journal
      = (match journal.store.get? key with
          | some result => pure result
          | none => do
            let result ← compute
            write (·.insert key result)
            return result : Logged (Cache α β) α β β).run journal := rfl
  rw [hrun]
  cases hget : journal.store.get? key with
  | some result => exact hget
  | none => exact Cache.get?_insert_self _ key _

/-- So it is after a computation that could fail and did not. -/
theorem get?_tryGetOrCompute {ε : Type} (key : Key α)
    (compute : Logged (Cache α β) α β (Except ε β)) (journal : Journal (Cache α β) α β)
    {result : β}
    (hok : ((Cache.operations.tryGetOrCompute key compute).run journal).1 = .ok result) :
    ((Cache.operations.tryGetOrCompute key compute).run journal).2.store.get? key
      = some result := by
  rw [tryGetOrCompute_eq, StateT.run_bind, StateT.run_get, pure_bind] at hok ⊢
  cases hget : journal.store.get? key with
  | some held =>
      simp only [hget] at hok ⊢
      cases hok
      exact hget
  | none =>
      simp only [hget, StateT.run_bind] at hok ⊢
      -- Only the outcome matters, not how the computation came to it.
      generalize compute.run journal = outcome at hok ⊢
      rcases outcome with ⟨error | found, after⟩
      · cases hok
      · cases hok
        exact Cache.get?_insert_self _ key _

/-- A cache does what a bounded list in order of admission does. For every
capacity, with zero read as one, and every client, whatever its
computations do to the cache they are called from: the client returns the
same value and sees the same on both; at every step the queue of the
cache repeats no key, has the keys of the entries and is not too long,
and the cache holds what the list holds. A result that was computed is
held afterwards. -/
theorem Client.run_cache_eq_run_admissions (name : String) (capacity : Nat) {γ : Type}
    (client : Client α β γ) :
    let cached := (client.run Cache.operations).run { store := Cache.empty name capacity }
    let listed := (client.run (Admissions.operations (max capacity 1))).run { store := [] }
    cached.1 = listed.1
      ∧ cached.2.observations = listed.2.observations
      ∧ List.Forall₂ (fun cache pairs => cache.InStep ∧ cache.queue.length ≤ max capacity 1
          ∧ cache.Represents pairs) cached.2.history listed.2.history
      ∧ (∀ (key : Key α) (compute : Logged (Cache α β) α β β) (journal : Journal (Cache α β) α β),
          let run := (Cache.operations.getOrCompute key compute).run journal
          run.2.store.get? key = some run.1)
      ∧ ∀ (ε : Type) (key : Key α) (compute : Logged (Cache α β) α β (Except ε β))
          (journal : Journal (Cache α β) α β) (result : β),
          let run := (Cache.operations.tryGetOrCompute key compute).run journal
          run.1 = .ok result → run.2.store.get? key = some result := by
  intro cached listed
  have hempty : (Cache.empty name capacity : Cache α β).capacity = max capacity 1
      ∧ (Cache.empty name capacity : Cache α β).Represents [] :=
    ⟨rfl, Cache.represents_empty name capacity⟩
  obtain ⟨hvalue, hmatch⟩ :=
    client.related_run { store := Cache.empty name capacity } { store := [] }
    ⟨hempty, .cons hempty .nil, rfl⟩
  refine ⟨hvalue, hmatch.observations, hmatch.history.imp ?_, get?_getOrCompute,
    fun _ key compute journal _ => get?_tryGetOrCompute key compute journal⟩
  -- Every pair of stores in the two histories matches.
  rintro cache pairs ⟨hcapacity, hrep⟩
  rw [← hcapacity]
  exact ⟨hrep.inStep, hrep.inStep.length_le, hrep⟩

end InteriorPoint
