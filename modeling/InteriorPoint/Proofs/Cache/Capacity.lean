import Mathlib.Data.Finset.Card
import InteriorPoint.Proofs.Cache.Client

/-!
# `InteriorPoint.Proofs.Cache.Capacity`: calls for no more keys than there is room for

To read a result does not make it younger, so a cache may drop a result
that its user goes on to ask for. This can happen if results are held
when the calls begin: the oldest of them gives way to another one, and is
missed later. It happens only once. A result that was computed during the
calls is younger than all that were held before, and while the calls are
for no more keys than the cache has room for, everything that has to go
is older (`Cache.suffix_queue_insert`, `Tracks.insert`).

A computation works on what the program has besides the cache (`Caller`).
It may change that, and two calls under one key may have different
computations. What happens is written to a log.

`Call.Served` lists what a single call may do. `Tracks` says what the
cache holds between two calls: the results computed so far, and apart
from them nothing that it did not hold at the start. A run leaves a log
of a simple form (`Course`, `Tracks.tracked_runAll`). What the log says of
one key (`CallLog.under`) follows from the form alone: calls return what
was held at first, until a result is computed that replaces it for good
(`Course.under_of_new`).
-/

set_option autoImplicit false

namespace InteriorPoint

/-- A call of a cache, with a computation that leaves the cache alone. -/
inductive Call (ω α β : Type) : Type 1 where
  | getOrCompute (key : Key α) (computation : StateM ω β)
  /-- The computation may fail. -/
  | tryGetOrCompute {ε : Type} (key : Key α) (computation : StateM ω (Except ε β))

/-- What happens in a call. -/
inductive Occurrence (β : Type) where
  /-- The computation has run, and has a result unless it failed. -/
  | computed (result : Option β)
  /-- The call has returned a result, or the failure of its computation. -/
  | returned (result : Option β)
deriving DecidableEq

/-- A computation has run. -/
def Occurrence.isComputed {β : Type} : Occurrence β → Bool
  | computed _ => true
  | returned _ => false

/-- What has happened in calls, and under which keys. -/
abbrev CallLog (α β : Type) : Type :=
  List (Key α × Occurrence β)

/-- A program that uses a cache. -/
structure Caller (ω α β : Type) where
  cache : Cache α β
  /-- What the program has besides. -/
  rest : ω
  log : CallLog α β := []

/-- Computations of such a program. -/
abbrev Calling (ω α β : Type) : Type → Type :=
  StateM (Caller ω α β)

namespace Calling

variable {ω α β : Type}

/-- Puts an occurrence at the end of the log. -/
def write (key : Key α) (occurrence : Occurrence β) : Calling ω α β Unit :=
  modify fun caller => { caller with log := caller.log ++ [(key, occurrence)] }

/-- A computation for a key, which leaves the cache alone. What came of
it is written down. -/
def compute {γ : Type} (key : Key α) (result? : γ → Option β) (computation : StateM ω γ) :
    Calling ω α β γ := do
  let outcome ← modifyGet fun caller =>
    ((computation.run caller.rest).1, { caller with rest := (computation.run caller.rest).2 })
  write key (.computed (result? outcome))
  return outcome

/-- How the program reaches the cache. -/
def access : Cache.Access (Calling ω α β) α β where
  read := return (← get).cache
  modify f := modify fun caller => { caller with cache := f caller.cache }
  missed _ := return ()

/-- Reading passes on the cache that is there. -/
theorem run_read_bind {γ : Type} (f : Cache α β → Calling ω α β γ) (caller : Caller ω α β) :
    (access.read >>= f).run caller = (f caller.cache).run caller :=
  rfl

/-- A miss is not written down by itself, only its computation is. -/
theorem missed_bind {γ : Type} (key : Key α) (f : Unit → Calling ω α β γ) :
    access.missed key >>= f = f () :=
  rfl

/-- A computation changes the rest of the program, and then its outcome is
in the log. -/
theorem run_compute_bind {γ δ : Type} (key : Key α) (result? : γ → Option β)
    (computation : StateM ω γ) (f : γ → Calling ω α β δ) (caller : Caller ω α β) :
    (compute key result? computation >>= f).run caller
      = (f (computation.run caller.rest).1).run
        { caller with
          rest := (computation.run caller.rest).2
          log := caller.log
            ++ [(key, .computed (result? (computation.run caller.rest).1))] } :=
  rfl

end Calling

namespace CallLog

variable {α β : Type}

/-- What has happened under a key. -/
def under [DecidableEq α] (log : CallLog α β) (key : Key α) : List (Occurrence β) :=
  (log.filter fun entry => entry.1 = key).map Prod.snd

/-- The results that were computed. -/
def results (log : CallLog α β) : Admissions α β :=
  log.filterMap fun
    | (key, .computed result) => result.map (key, ·)
    | (_, .returned _) => none

/-- The results that were returned. -/
def answers (log : CallLog α β) : List (Key α × β) :=
  log.filterMap fun
    | (_, .computed _) => none
    | (key, .returned result) => result.map (key, ·)

/-- No computation has failed. -/
def Succeeds (log : CallLog α β) : Prop :=
  ∀ key, (key, .computed none) ∉ log

/-- Nothing has happened, so nothing was computed. -/
theorem results_nil : results ([] : CallLog α β) = [] :=
  rfl

/-- The results of a log are those of its parts. -/
theorem results_append (log log' : CallLog α β) :
    results (log ++ log') = log.results ++ log'.results :=
  List.filterMap_append

/-- So are the answers. -/
theorem answers_append (log log' : CallLog α β) :
    answers (log ++ log') = log.answers ++ log'.answers :=
  List.filterMap_append

end CallLog

namespace Call

open Calling

variable {ω α β : Type}

/-- The key that is asked for. -/
def key : Call ω α β → Key α
  | getOrCompute key _ => key
  | tryGetOrCompute key _ => key

variable [DecidableEq α]

/-- Makes a call. -/
def run : Call ω α β → Calling ω α β Unit
  | getOrCompute key computation => do
    let result ← access.getOrCompute key (compute key some computation)
    write key (.returned (some result))
  | @tryGetOrCompute _ _ _ ε key computation => do
    let outcome ← ((access.exceptT ε).getOrCompute key
      (ExceptT.mk (compute key Except.toOption computation))).run
    write key (.returned outcome.toOption)

/-- Makes calls one after the other. -/
def runAll (calls : List (Call ω α β)) (caller : Caller ω α β) : Caller ω α β :=
  ((calls.forM run).run caller).2

end Call

variable {ω α β : Type} [DecidableEq α]

/-! ### Caches that can come about -/

/-- The caches that occur while a client uses a new one. -/
def Cache.Arises (cache : Cache α β) : Prop :=
  ∃ (name : String) (capacity : Nat) (γ : Type) (client : Client α β γ),
    cache ∈ ((client.run Cache.operations).run { store := Cache.empty name capacity }).2.history

/-- A cache that comes about is in step with a list of admissions. -/
theorem Cache.Arises.represents {cache : Cache α β} (h : cache.Arises) :
    ∃ pairs, cache.Represents pairs := by
  obtain ⟨name, capacity, γ, client, hmem⟩ := h
  have hempty : (Cache.empty name capacity : Cache α β).capacity = max capacity 1
      ∧ (Cache.empty name capacity : Cache α β).Represents [] :=
    ⟨rfl, Cache.represents_empty name capacity⟩
  obtain ⟨-, hmatch⟩ := client.related_run { store := Cache.empty name capacity } { store := [] }
    ⟨hempty, .cons hempty .nil, rfl⟩
  obtain ⟨i, hi, rfl⟩ := List.mem_iff_getElem.1 hmem
  exact ⟨_, (hmatch.history.get hi (hmatch.history.length_eq ▸ hi)).2⟩

/-! ### A single call -/

/-- What a call under a key does. -/
inductive Call.Served (key : Key α) (caller caller' : Caller ω α β) : Prop where
  | held {result : β} (hheld : caller.cache.get? key = some result)
      (hcache : caller'.cache = caller.cache)
      (hlog : caller'.log = caller.log ++ [(key, .returned (some result))])
  | computed {result : β} (hmissing : caller.cache.get? key = none)
      (hcache : caller'.cache = caller.cache.insert key result)
      (hlog : caller'.log
        = caller.log ++ [(key, .computed (some result)), (key, .returned (some result))])
  | failed (hmissing : caller.cache.get? key = none) (hcache : caller'.cache = caller.cache)
      (hlog : caller'.log = caller.log ++ [(key, .computed none), (key, .returned none)])

/-- A call reads a held result, or computes one and stores it, or fails.
-/
theorem Call.served_run (call : Call ω α β) (caller : Caller ω α β) :
    Call.Served call.key caller (call.run.run caller).2 := by
  -- Both kinds of call read first; they differ in what a failure does.
  cases call with
  | getOrCompute key computation =>
      rw [Call.run, Cache.Access.getOrCompute, bind_assoc, Calling.run_read_bind]
      cases hget : caller.cache.get? key with
      | some result => exact .held hget rfl rfl
      | none => exact .computed hget rfl (List.append_assoc _ [_] [_])
  | @tryGetOrCompute ε key computation =>
      rw [Call.run, Calling.access.run_getOrCompute_exceptT, bind_assoc, Calling.run_read_bind]
      cases hget : caller.cache.get? key with
      | some result => exact .held hget rfl rfl
      | none =>
          -- The computation runs first, and what is stored depends on its outcome.
          simp only [Calling.missed_bind, bind_assoc, Calling.run_compute_bind]
          cases (computation.run caller.rest).1 with
          | ok result => exact .computed hget rfl (List.append_assoc _ [_] [_])
          | error error => exact .failed hget rfl (List.append_assoc _ [_] [_])

/-! ### What the cache holds -/

/-- After calls the cache holds the results they have computed, as its
youngest, and apart from them nothing that it did not hold at the
start. -/
structure Tracks (start cache : Cache α β) (results : Admissions α β) : Prop where
  represents : ∃ pairs, cache.Represents pairs
  capacity : cache.capacity = start.capacity
  suffix : results.keys <:+ cache.queue
  held : ∀ pair ∈ results, cache.get? pair.1 = some pair.2
  original : ∀ {key : Key α} {result : β}, key ∉ results.keys →
    cache.get? key = some result → start.get? key = some result

variable {start cache cache' : Cache α β} {results : Admissions α β} {key : Key α}
  {log log' : CallLog α β}

/-- Before the first call nothing was computed. -/
theorem tracks_self (h : ∃ pairs, cache.Represents pairs) : Tracks cache cache [] :=
  ⟨h, rfl, List.nil_suffix, fun _ hpair => (nomatch hpair), fun _ => id⟩

/-- A computed result is still held. -/
theorem Tracks.exists_held (h : Tracks start cache results) (hmem : key ∈ results.keys) :
    ∃ result, (key, result) ∈ results ∧ cache.get? key = some result := by
  obtain ⟨pair, hpair, rfl⟩ := List.mem_map.1 hmem
  exact ⟨pair.2, hpair, h.held pair hpair⟩

/-- So nothing was computed yet for a key that is missing. -/
theorem Tracks.not_mem_of_missing (h : Tracks start cache results)
    (hmissing : cache.get? key = none) : key ∉ results.keys := by
  intro hmem
  obtain ⟨result, -, hheld⟩ := h.exists_held hmem
  rw [hmissing] at hheld
  cases hheld

/-- What is held was computed, or was held at the start. -/
theorem Tracks.cases_of_get? (h : Tracks start cache results) {result : β}
    (hget : cache.get? key = some result) :
    (key, result) ∈ results ∨ key ∉ results.keys ∧ start.get? key = some result := by
  by_cases hmem : key ∈ results.keys
  · obtain ⟨found, hfound, hheld⟩ := h.exists_held hmem
    rw [hget] at hheld
    cases hheld
    exact Or.inl hfound
  · exact Or.inr ⟨hmem, h.original hmem hget⟩

/-- A further result that is computed does not displace those computed
before. -/
theorem Tracks.insert (h : Tracks start cache results) {keys : Finset (Key α)}
    (hkeys : keys.card ≤ start.capacity) (hwanted : ∀ other ∈ results.keys ++ [key], other ∈ keys)
    (hmissing : cache.get? key = none) (result : β) :
    Tracks start (cache.insert key result) (results ++ [(key, result)]) := by
  obtain ⟨pairs, hrep⟩ := h.represents
  -- The keys so far and the new one are different, so there are not too many of them.
  have hnodup := hrep.inStep.nodup_recent h.suffix hmissing
  have hroom : (results.keys ++ [key]).length ≤ cache.capacity := by
    rw [h.capacity, ← List.toFinset_card_of_nodup hnodup]
    exact (Finset.card_le_card fun other hmem => hwanted other (List.mem_toFinset.1 hmem)).trans
      hkeys
  rw [List.length_append, List.length_singleton] at hroom
  have hsuffix := Cache.suffix_queue_insert h.suffix hroom hmissing result
  rw [← Admissions.keys_concat results key result] at hsuffix
  have hrep' := hrep.insert key result
  refine ⟨⟨_, hrep'⟩, (Cache.capacity_insert _ _ _).trans h.capacity, hsuffix, ?_, ?_⟩
  · intro pair hpair
    rcases List.mem_append.1 hpair with hold | hnew
    · have hqueue := hsuffix.subset (List.mem_map_of_mem hpair)
      exact Cache.get?_insert_of_mem_queue hrep'.inStep hmissing (h.held pair hold) hqueue
    · rw [List.mem_singleton.1 hnew]
      exact Cache.get?_insert_self cache key result
  · -- Making room for the new result only takes away.
    intro other found hother hfound
    rw [Admissions.keys_concat, List.mem_append, not_or, List.mem_singleton] at hother
    rcases Cache.get?_of_insert hfound with ⟨rfl, -⟩ | hbefore
    · exact absurd rfl hother.2
    · exact h.original hother.1 hbefore

/-! ### Calls one after the other -/

/-- The log of calls that all succeed, when some results were computed
before. What is returned was computed, or it was held at the start and
nothing was computed since. Nothing is computed twice. -/
inductive Course (start : Cache α β) : Admissions α β → CallLog α β → Prop where
  | nil (results : Admissions α β) : Course start results []
  | held {results : Admissions α β} {key : Key α} {result : β} {log : CallLog α β}
      (hheld : (key, result) ∈ results ∨ key ∉ results.keys ∧ start.get? key = some result)
      (hrest : Course start results log) :
      Course start results ((key, .returned (some result)) :: log)
  | computed {results : Admissions α β} {key : Key α} {result : β} {log : CallLog α β}
      (hnew : key ∉ results.keys) (hrest : Course start (results ++ [(key, result)]) log) :
      Course start results
        ((key, .computed (some result)) :: (key, .returned (some result)) :: log)

/-- Calls of one form after calls of that form have it together. -/
theorem Course.append (h : Course start results log)
    (h' : Course start (results ++ log.results) log') : Course start results (log ++ log') := by
  induction h with
  | nil results =>
      rw [CallLog.results_nil, List.append_nil] at h'
      exact h'
  | held hheld _ ih => exact .held hheld (ih h')
  | @computed results key result log hnew _ ih =>
      -- The result of the head belongs to those computed before the second log.
      have hresults : CallLog.results
          ((key, .computed (some result)) :: (key, .returned (some result)) :: log)
          = [(key, result)] ++ log.results := rfl
      rw [hresults, ← List.append_assoc] at h'
      exact .computed hnew (ih h')

/-- What is computed is returned. -/
theorem Course.results_subset (h : Course start results log) : log.results ⊆ log.answers := by
  induction h with
  | nil => exact List.nil_subset _
  | held _ _ ih => exact List.subset_cons_of_subset _ ih
  | computed _ _ ih => exact List.cons_subset_cons _ ih

/-- What calls under the given keys leave behind. The log is theirs
alone. -/
structure Tracked (start : Cache α β) (results : Admissions α β) (keys : List (Key α))
    (cache : Cache α β) (log : CallLog α β) : Prop where
  course : Course start results log
  tracks : Tracks start cache (results ++ log.results)
  answers : log.answers.map Prod.fst = keys

/-- What holds of calls and of those after them holds of both in a row. -/
theorem Tracked.append {keys keys' : List (Key α)} (h : Tracked start results keys cache log)
    (h' : Tracked start (results ++ log.results) keys' cache' log') :
    Tracked start results (keys ++ keys') cache' (log ++ log') where
  course := h.course.append h'.course
  tracks := by
    rw [CallLog.results_append, ← List.append_assoc]
    exact h'.tracks
  answers := by rw [CallLog.answers_append, List.map_append, h.answers, h'.answers]

/-- The results that calls have computed are under the keys of the calls. -/
theorem Tracked.mem_keys {keys : List (Key α)} (h : Tracked start results keys cache log)
    (hkey : key ∈ Admissions.keys (results ++ log.results)) : key ∈ results.keys ∨ key ∈ keys := by
  obtain ⟨pair, hpair, rfl⟩ := List.mem_map.1 hkey
  refine (List.mem_append.1 hpair).imp (List.mem_map_of_mem ·) fun hnew => ?_
  rw [← h.answers]
  exact List.mem_map_of_mem (h.course.results_subset hnew)

/-- A single call for a key among those for which there is room. -/
theorem Call.Served.tracked {caller caller' : Caller ω α β}
    (hserved : Call.Served key caller caller')
    (h : Tracks start caller.cache results) {keys : Finset (Key α)}
    (hkeys : keys.card ≤ start.capacity) (hwanted : ∀ other ∈ results.keys ++ [key], other ∈ keys)
    (hsucceeds : caller'.log.Succeeds) :
    ∃ log, caller'.log = caller.log ++ log ∧ Tracked start results [key] caller'.cache log := by
  -- A failure is excluded, since it would be in the log.
  cases hserved with
  | held hheld hcache hlog =>
      have h' := h
      rw [← hcache, ← List.append_nil results] at h'
      exact ⟨_, hlog, .held (h.cases_of_get? hheld) (.nil _), h', rfl⟩
  | @computed result hmissing hcache hlog =>
      have h' := h.insert hkeys hwanted hmissing result
      rw [← hcache] at h'
      exact ⟨_, hlog, .computed (h.not_mem_of_missing hmissing) (.nil _), h', rfl⟩
  | failed _ _ hlog =>
      refine absurd ?_ (hsucceeds key)
      rw [hlog]
      exact List.mem_append_right _ List.mem_cons_self

/-- A call adds to the log and takes nothing back. -/
theorem Call.Served.prefix_log {caller caller' : Caller ω α β}
    (h : Call.Served key caller caller') : caller.log <+: caller'.log := by
  cases h with
  | held _ _ hlog | computed _ _ hlog | failed _ _ hlog =>
      rw [hlog]
      exact List.prefix_append _ _

/-- What is in the log stays there. -/
theorem Call.prefix_log_runAll (calls : List (Call ω α β)) (caller : Caller ω α β) :
    caller.log <+: (Call.runAll calls caller).log := by
  induction calls generalizing caller with
  | nil => exact List.prefix_refl _
  | cons call calls ih => exact (call.served_run caller).prefix_log.trans (ih _)

/-- Calls for no more keys than there is room for, none of whose
computations fails. -/
theorem Tracks.tracked_runAll {calls : List (Call ω α β)} {caller : Caller ω α β}
    (h : Tracks start caller.cache results) {keys : Finset (Key α)}
    (hkeys : keys.card ≤ start.capacity)
    (hwanted : ∀ key ∈ results.keys ++ calls.map Call.key, key ∈ keys)
    (hsucceeds : (Call.runAll calls caller).log.Succeeds) :
    ∃ log, (Call.runAll calls caller).log = caller.log ++ log
      ∧ Tracked start results (calls.map Call.key) (Call.runAll calls caller).cache log := by
  induction calls generalizing caller results with
  | nil =>
      refine ⟨[], (List.append_nil _).symm, .nil _, ?_, rfl⟩
      rw [CallLog.results_nil, List.append_nil]
      exact h
  | cons call calls ih =>
      rw [List.map_cons, List.append_cons, List.forall_mem_append] at hwanted
      have hserved := call.served_run caller
      -- A failure in the first call would still be in the log at the end.
      have hfirst : (call.run.run caller).2.log.Succeeds := fun key hmem =>
        hsucceeds key ((Call.prefix_log_runAll calls _).subset hmem)
      obtain ⟨log, hlog, htracked⟩ := hserved.tracked h hkeys hwanted.1 hfirst
      have hresults : ∀ key ∈ Admissions.keys (results ++ log.results), key ∈ keys :=
        fun key hkey => hwanted.1 key (List.mem_append.2 (htracked.mem_keys hkey))
      obtain ⟨log', hlog', htracked'⟩ :=
        ih htracked.tracks (List.forall_mem_append.2 ⟨hresults, hwanted.2⟩) hsucceeds
      -- Every call appends to the log of those before it.
      refine ⟨log ++ log', ?_, htracked.append htracked'⟩
      rw [← List.append_assoc, ← hlog]
      exact hlog'

/-! ### One key -/

namespace CallLog

/-- What happens under a key comes first in what happened under it. -/
theorem under_cons_self (occurrence : Occurrence β) (log : CallLog α β) :
    under ((key, occurrence) :: log) key = occurrence :: log.under key := by
  simp [under]

/-- What happens under another key is passed over. -/
theorem under_cons_of_ne {other : Key α} (hne : other ≠ key) (occurrence : Occurrence β)
    (log : CallLog α β) : under ((other, occurrence) :: log) key = log.under key := by
  simp [under, hne]

/-- What has happened under a key is in the log with it. -/
theorem mem_under {occurrence : Occurrence β} :
    occurrence ∈ log.under key ↔ (key, occurrence) ∈ log := by
  simp [under]

/-- A result was computed if the log says so under its key. -/
theorem mem_results {result : β} :
    (key, result) ∈ log.results ↔ .computed (some result) ∈ log.under key := by
  rw [mem_under, results, List.mem_filterMap]
  constructor
  · rintro ⟨⟨other, computed | returned⟩, hmem, heq⟩
    · obtain ⟨found, rfl, hpair⟩ := Option.map_eq_some_iff.1 heq
      cases hpair
      exact hmem
    · cases heq
  · exact fun hmem => ⟨_, hmem, rfl⟩

end CallLog

/-- Calls return what is held, and nothing is computed. -/
def Returns (held : Option β) (occurrences : List (Occurrence β)) : Prop :=
  ∀ occurrence ∈ occurrences, ∃ result, held = some result ∧ occurrence = .returned (some result)

/-- What happens under one key, when all computations succeed. The calls
return what was held at first. If a result is computed, they return that
from then on. -/
inductive Once (held : Option β) : List (Occurrence β) → Prop where
  | kept {occurrences : List (Occurrence β)} (hall : Returns held occurrences) :
      Once held occurrences
  | replaced {early late : List (Occurrence β)} {result : β} (hearly : Returns held early)
      (hlate : Returns (some result) late) : Once held (early ++ .computed (some result) :: late)

section

variable {held : Option β} {occurrences : List (Occurrence β)}

/-- No calls return nothing else. -/
theorem returns_nil (held : Option β) : Returns held [] :=
  fun _ hoccurrence => nomatch hoccurrence

/-- One more call returns what is held. -/
theorem Returns.cons (h : Returns held occurrences) {result : β} (hheld : held = some result) :
    Returns held (.returned (some result) :: occurrences) :=
  List.forall_mem_cons.2 ⟨⟨result, hheld, rfl⟩, h⟩

/-- If a result is held, every call returns just that. -/
theorem Returns.eq_returned {result : β} (h : Returns (some result) occurrences) :
    ∀ occurrence ∈ occurrences, occurrence = .returned (some result) := by
  intro occurrence hmem
  obtain ⟨other, hother, rfl⟩ := h occurrence hmem
  cases hother
  rfl

/-- As long as calls return what is held, none computes. -/
theorem Returns.not_isComputed (h : Returns held occurrences) :
    ∀ occurrence ∈ occurrences, ¬ occurrence.isComputed := by
  intro occurrence hmem
  obtain ⟨result, -, rfl⟩ := h occurrence hmem
  exact Bool.false_ne_true

/-- So no computation is among them, with whatever outcome. -/
theorem Returns.computed_not_mem (h : Returns held occurrences) (outcome : Option β) :
    .computed outcome ∉ occurrences :=
  fun hmem => h.not_isComputed _ hmem rfl

/-- What is held is returned once more, before all else. -/
theorem Once.cons (h : Once held occurrences) {result : β} (hheld : held = some result) :
    Once held (.returned (some result) :: occurrences) := by
  cases h with
  | kept hall => exact .kept (hall.cons hheld)
  | replaced hearly hlate => exact .replaced (hearly.cons hheld) hlate

/-- There is at most one computation under a key. -/
theorem Once.countP_isComputed_le_one (h : Once held occurrences) :
    occurrences.countP Occurrence.isComputed ≤ 1 := by
  cases h with
  | kept hall =>
      rw [List.countP_eq_zero.2 hall.not_isComputed]
      exact Nat.zero_le 1
  | replaced hearly hlate =>
      rw [List.countP_append, List.countP_cons, List.countP_eq_zero.2 hearly.not_isComputed,
        List.countP_eq_zero.2 hlate.not_isComputed]
      exact Nat.le_refl 1

/-- The result that was computed is returned from then on. -/
theorem Once.eq_returned_of_computed {before after : List (Occurrence β)} {outcome : Option β}
    (h : Once held (before ++ .computed outcome :: after)) :
    ∀ occurrence ∈ after, occurrence = .returned outcome := by
  generalize hall : before ++ .computed outcome :: after = occurrences at h
  cases h with
  | kept hkept =>
      subst hall
      exact absurd (List.mem_append_right _ List.mem_cons_self) (hkept.computed_not_mem outcome)
  | replaced hearly hlate =>
      -- There is only one computation, so both ways to split are the same.
      obtain ⟨-, houtcome, rfl⟩ := (List.append_cons_inj_of_notMem
        (hearly.computed_not_mem outcome) (hlate.computed_not_mem outcome)).1 hall.symm
      cases houtcome
      exact hlate.eq_returned

end

/-- Once a result was computed, it is returned. -/
theorem Course.under_of_mem (h : Course start results log) (hnodup : results.keys.Nodup)
    {result : β} (hmem : (key, result) ∈ results) : Returns (some result) (log.under key) := by
  induction h with
  | nil => exact returns_nil _
  | @held results other found log hheld _ ih =>
      have hlater := ih hnodup hmem
      by_cases hkey : other = key
      · subst hkey
        have hfound : result = found := by
          rcases hheld with hfound | ⟨hnew, -⟩
          · exact Admissions.result_unique hnodup hmem hfound
          · exact absurd (List.mem_map_of_mem hmem) hnew
        rw [CallLog.under_cons_self]
        exact hlater.cons (congrArg some hfound)
      · rw [CallLog.under_cons_of_ne hkey]
        exact hlater
  | @computed results other found log hnew _ ih =>
      -- The computation was for another key, because this one has its result.
      have hkey : other ≠ key := by
        rintro rfl
        exact hnew (List.mem_map_of_mem hmem)
      rw [CallLog.under_cons_of_ne hkey, CallLog.under_cons_of_ne hkey]
      exact ih (Admissions.nodup_keys_concat hnodup hnew found) (List.mem_append_left _ hmem)

/-- Under a key for which nothing was computed before. -/
theorem Course.under_of_new (h : Course start results log) (hnodup : results.keys.Nodup)
    (hkey : key ∉ results.keys) : Once (start.get? key) (log.under key) := by
  induction h with
  | nil => exact .kept (returns_nil _)
  | @held results other found log hheld _ ih =>
      have hlater := ih hnodup hkey
      by_cases hsame : other = key
      · subst hsame
        rw [CallLog.under_cons_self]
        rcases hheld with hfound | ⟨-, hheld⟩
        · exact absurd (List.mem_map_of_mem hfound) hkey
        · exact hlater.cons hheld
      · rw [CallLog.under_cons_of_ne hsame]
        exact hlater
  | @computed results other found log hnew hrest ih =>
      have hnodup' := Admissions.nodup_keys_concat hnodup hnew found
      by_cases hsame : other = key
      · -- From here on the result just computed is returned.
        subst hsame
        have hlate := hrest.under_of_mem hnodup'
          (List.mem_append_right _ (List.mem_singleton_self _))
        rw [CallLog.under_cons_self, CallLog.under_cons_self]
        exact Once.replaced (returns_nil _) (hlate.cons rfl)
      · rw [CallLog.under_cons_of_ne hsame, CallLog.under_cons_of_ne hsame]
        refine ih hnodup' ?_
        rw [Admissions.keys_concat, List.mem_append, not_or, List.mem_singleton]
        exact ⟨hkey, Ne.symm hsame⟩

/-- A cache does not thrash within its capacity. Whatever it holds at the
start: if the calls are for no more keys than it has room for and no
computation fails, then every call returns a result; for each key at most
one computation runs, and calls under the key return its result from then
on. What was held under the key at the start is returned by all calls
under it, or else by those before the computation, whose result then
stays in the cache to the end. The cache never holds anything else. -/
theorem Cache.Arises.computed_at_most_once (harises : cache.Arises)
    (calls : List (Call ω α β)) (rest : ω)
    (hkeys : (calls.map Call.key).toFinset.card ≤ cache.capacity) :
    let caller := Call.runAll calls { cache, rest }
    caller.log.Succeeds →
      caller.log.answers.map Prod.fst = calls.map Call.key
        ∧ ∀ key, (caller.log.under key).countP Occurrence.isComputed ≤ 1
          ∧ (∀ before outcome after, caller.log.under key = before ++ .computed outcome :: after →
              ∀ occurrence ∈ after, occurrence = .returned outcome)
          ∧ (Returns (cache.get? key) (caller.log.under key)
              ∨ ∃ early result late, caller.log.under key = early ++ .computed (some result) :: late
                ∧ Returns (cache.get? key) early ∧ Returns (some result) late
                ∧ caller.cache.get? key = some result)
          ∧ ∀ result, caller.cache.get? key = some result →
              .computed (some result) ∈ caller.log.under key ∨ cache.get? key = some result := by
  intro caller hsucceeds
  -- The calls are for the keys they are for; none was computed before the first.
  have hwanted : ∀ key ∈ Admissions.keys ([] : Admissions α β) ++ calls.map Call.key,
      key ∈ (calls.map Call.key).toFinset := fun _ => List.mem_toFinset.2
  obtain ⟨log, hlog, htracked⟩ :=
    (tracks_self harises.represents).tracked_runAll hkeys hwanted hsucceeds
  have hall : caller.log = log := hlog
  rw [← hall] at htracked
  refine ⟨htracked.answers, fun key => ?_⟩
  have honce : Once (cache.get? key) (caller.log.under key) :=
    htracked.course.under_of_new List.nodup_nil List.not_mem_nil
  refine ⟨honce.countP_isComputed_le_one, ?_, ?_, fun result hget => ?_⟩
  · intro before outcome after hsplit
    rw [hsplit] at honce
    exact honce.eq_returned_of_computed
  · -- The simple form has two cases, and the claim about held results names both.
    generalize hunder : caller.log.under key = occurrences at honce
    cases honce with
    | kept hall => exact Or.inl hall
    | @replaced early late result hearly hlate =>
        refine Or.inr ⟨early, result, late, rfl, hearly, hlate, ?_⟩
        have hresult : (key, result) ∈ caller.log.results := by
          rw [CallLog.mem_results, hunder]
          exact List.mem_append_right _ List.mem_cons_self
        exact htracked.tracks.held _ hresult
  · rcases htracked.tracks.cases_of_get? hget with hcomputed | ⟨-, hheld⟩
    · exact Or.inl (CallLog.mem_results.1 hcomputed)
    · exact Or.inr hheld

namespace Displaced

/-- The key that is admitted first. -/
def older : Key ℕ :=
  .ofTags [⟨1⟩]

/-- The key that is admitted second. -/
def younger : Key ℕ :=
  .ofTags [⟨2⟩]

/-- A key that is not held at the start. -/
def newcomer : Key ℕ :=
  .ofTags [⟨3⟩]

/-- Fills the cache. -/
def client : Client ℕ ℕ Unit :=
  .insert older 10 (.insert younger 20 (.done ()))

/-- A cache with room for two results, which it holds. -/
def full : Cache ℕ ℕ :=
  ((client.run Cache.operations).run { store := Cache.empty "full" 2 }).2.store

/-- The result of a computation is how many there were before. -/
def count : StateM ℕ ℕ :=
  modifyGet fun number => (number, number + 1)

/-- The older result is read, gives way to a new one, and is computed
again. -/
def calls : List (Call ℕ ℕ ℕ) :=
  [.getOrCompute older count, @Call.tryGetOrCompute _ _ _ Unit newcomer (Except.ok <$> count),
    .getOrCompute older count, .getOrCompute newcomer count, .getOrCompute older count]

/-- The program after its calls. -/
def caller : Caller ℕ ℕ ℕ :=
  Call.runAll calls { cache := full, rest := 0 }

/-- All that happens in the five calls. -/
theorem log_caller : caller.log =
    [(older, .returned (some 10)), (newcomer, .computed (some 0)), (newcomer, .returned (some 0)),
      (older, .computed (some 1)), (older, .returned (some 1)), (newcomer, .returned (some 0)),
      (older, .returned (some 1))] := by
  decide

/-- The older key is computed once although it was held at the start,
because the newcomer had displaced it. -/
theorem computed_at_most_once_full :
    full.Arises ∧ (calls.map Call.key).toFinset.card ≤ full.capacity ∧ caller.log.Succeeds
      ∧ caller.log.under older
        = [.returned (some 10), .computed (some 1), .returned (some 1), .returned (some 1)]
      ∧ (caller.log.under older).countP Occurrence.isComputed ≤ 1
      ∧ (Returns (full.get? older) (caller.log.under older)
        ∨ ∃ early result late, caller.log.under older = early ++ .computed (some result) :: late
          ∧ Returns (full.get? older) early ∧ Returns (some result) late
          ∧ caller.cache.get? older = some result) := by
  -- The cache was filled by a program, and the calls are about two keys.
  have harises : full.Arises := ⟨"full", 2, Unit, client, List.mem_of_getElem? (i := 2) rfl⟩
  have hkeys : (calls.map Call.key).toFinset.card ≤ full.capacity := by decide
  have hsucceeds : caller.log.Succeeds := by
    intro key
    rw [log_caller]
    simp
  obtain ⟨-, honce⟩ := harises.computed_at_most_once calls 0 hkeys hsucceeds
  obtain ⟨hcount, -, hreturns, -⟩ := honce older
  exact ⟨harises, hkeys, hsucceeds, by decide, hcount, hreturns⟩

end Displaced

end InteriorPoint
