import Mathlib.Data.List.Nodup
import InteriorPoint.Proofs.Cache.Lookup

/-!
# `InteriorPoint.Proofs.Cache.Admission`: a cache as one list

A cache keeps the results by key and, beside them, the queue of keys in
order of admission. The two are written separately, and every operation
has to keep them in step. The reference is a single list of keys with
their results, oldest first (`Admissions`). There is nothing to keep in
step there: to enter a result under a new key is to drop from the front
until there is room and then to append.

`Represents` joins the two sides. The queue is the list of the keys, in
this order, and the entries are the pairs of the list, in any order. That
the entries may be permuted is what makes the relation survive: a table
moves a replaced entry to its front, while the list keeps its place.

Each operation on a cache does to the list what the reference does
(`Represents.insert`, `Represents.invalidate`, `Represents.clear`), and
what can be read from a cache can be read from the list
(`Represents.get?_eq`, `Represents.size_eq`). That queue and entries are
in step (`InStep`) is then a property of lists without repeated keys.
-/

set_option autoImplicit false

namespace InteriorPoint

/-- Results with their keys, in order of admission. -/
abbrev Admissions (α β : Type) : Type :=
  List (Key α × β)

namespace Admissions

variable {α β : Type}

/-- The keys, oldest first. -/
def keys (pairs : Admissions α β) : List (Key α) :=
  pairs.map Prod.fst

/-- Drops the oldest results until there is room for another one. -/
def makeRoom (capacity : Nat) : Admissions α β → Admissions α β
  | [] => []
  | oldest :: rest =>
    if rest.length + 1 < capacity then oldest :: rest else makeRoom capacity rest

/-- Drops every result that depends on an input. -/
def without (pairs : Admissions α β) (tag : Tag) : Admissions α β :=
  pairs.filter fun pair => !pair.1.dependsOn tag

variable [DecidableEq α]

/-- The result under a key takes the place of the old one. -/
def replace (pairs : Admissions α β) (key : Key α) (result : β) : Admissions α β :=
  pairs.map fun pair => if pair.1 = key then (key, result) else pair

/-- Admits a result under a new key last, and replaces the result under
a key that is there. -/
def enter (capacity : Nat) (pairs : Admissions α β) (key : Key α) (result : β) :
    Admissions α β :=
  if key ∈ pairs.keys then pairs.replace key result
  else pairs.makeRoom capacity ++ [(key, result)]

omit [DecidableEq α] in
/-- Room is made by dropping as many results as there are too many, in one
go. -/
theorem makeRoom_eq_drop (capacity : Nat) (pairs : Admissions α β) :
    pairs.makeRoom capacity = pairs.drop (pairs.length + 1 - capacity) := by
  induction pairs with
  | nil => simp [makeRoom]
  | cons oldest rest ih =>
      -- One step drops the oldest result, or stops.
      rw [makeRoom]
      split
      · rename_i hroom
        have hnone : (oldest :: rest).length + 1 - capacity = 0 := by
          rw [List.length_cons]
          omega
        rw [hnone, List.drop_zero]
      · rename_i hfull
        have hone : (oldest :: rest).length + 1 - capacity
            = rest.length + 1 - capacity + 1 := by
          rw [List.length_cons]
          omega
        rw [ih, hone, List.drop_succ_cons]

/-- A new result under an old key does not move the key. -/
theorem keys_replace (pairs : Admissions α β) (key : Key α) (result : β) :
    (pairs.replace key result).keys = pairs.keys := by
  unfold keys replace
  rw [List.map_map]
  apply List.map_congr_left
  intro pair _
  by_cases hkey : pair.1 = key <;> simp [hkey]

omit [DecidableEq α] in
/-- A result that is admitted last has its key last. -/
theorem keys_concat (pairs : Admissions α β) (key : Key α) (result : β) :
    Admissions.keys (pairs ++ [(key, result)]) = pairs.keys ++ [key] :=
  List.map_append

/-- The result under a key, when no key is repeated. -/
theorem lookup_eq_some {pairs : Admissions α β} (hnodup : pairs.keys.Nodup) {key : Key α}
    {result : β} : pairs.lookup key = some result ↔ (key, result) ∈ pairs := by
  induction pairs with
  | nil => simp
  | cons pair rest ih =>
      obtain ⟨hnew, hrest⟩ := List.nodup_cons.1 hnodup
      rw [List.lookup_cons, List.mem_cons]
      by_cases hkey : key = pair.1
      · -- The key cannot appear again further down.
        subst hkey
        have hnone : (pair.1, result) ∉ rest := fun hmem =>
          hnew (List.mem_map.2 ⟨_, hmem, rfl⟩)
        simp [hnone, Prod.ext_iff, eq_comm]
      · have hne : (key, result) ≠ pair := fun h => hkey (by rw [← h])
        rw [beq_eq_false_iff_ne.2 hkey]
        simp [hne, ih hrest]

/-- If no key is repeated, a key has one result. -/
theorem result_unique {pairs : Admissions α β} (hnodup : pairs.keys.Nodup) {key : Key α}
    {result other : β} (h : (key, result) ∈ pairs) (h' : (key, other) ∈ pairs) :
    result = other := by
  rw [← lookup_eq_some hnodup] at h h'
  exact Option.some.inj (h.symm.trans h')

omit [DecidableEq α] in
/-- A new key at the end repeats none. -/
theorem nodup_keys_concat {pairs : Admissions α β} (hnodup : pairs.keys.Nodup) {key : Key α}
    (hnew : key ∉ pairs.keys) (result : β) :
    (Admissions.keys (pairs ++ [(key, result)])).Nodup := by
  rw [keys_concat]
  exact hnodup.append (List.nodup_singleton key) (List.disjoint_singleton.2 hnew)

omit [DecidableEq α] in
/-- A key that is not in the list differs from all that are. -/
theorem fst_ne_of_not_mem {pairs : Admissions α β} {key : Key α} (hnew : key ∉ pairs.keys)
    {pair : Key α × β} (hpair : pair ∈ pairs) : pair.1 ≠ key := by
  rintro rfl
  exact hnew (List.mem_map_of_mem hpair)

/-- To replace what is not there changes nothing. -/
theorem replace_of_not_mem {pairs : Admissions α β} {key : Key α} (hnew : key ∉ pairs.keys)
    (result : β) : pairs.replace key result = pairs := by
  unfold replace
  rw [List.map_congr_left (g := id), List.map_id]
  intro pair hpair
  rw [if_neg (fst_ne_of_not_mem hnew hpair), id]

/-- So does to take it out. -/
theorem filter_ne_of_not_mem {pairs : Admissions α β} {key : Key α} (hnew : key ∉ pairs.keys) :
    (pairs.filter fun pair => pair.1 ≠ key) = pairs := by
  refine List.filter_eq_self.2 fun pair hpair => ?_
  rw [decide_eq_true_eq]
  exact fst_ne_of_not_mem hnew hpair

/-- To replace a result is to take the old one out and to put the new one
in, up to the order. -/
theorem replace_perm {pairs : Admissions α β} (hnodup : pairs.keys.Nodup) {key : Key α}
    (hmem : key ∈ pairs.keys) (result : β) :
    ((key, result) :: pairs.filter fun pair => pair.1 ≠ key).Perm (pairs.replace key result) := by
  induction pairs with
  | nil => exact absurd hmem List.not_mem_nil
  | cons pair rest ih =>
      obtain ⟨hnew, hrest⟩ := List.nodup_cons.1 hnodup
      by_cases hkey : pair.1 = key
      · -- The key cannot appear again further down.
        subst hkey
        have hreplaced : Admissions.replace (pair :: rest) pair.1 result
            = (pair.1, result) :: Admissions.replace rest pair.1 result := by
          simp [replace]
        rw [hreplaced, replace_of_not_mem hnew, List.filter_cons_of_neg (by simp),
          filter_ne_of_not_mem hnew]
      · -- The replaced pair is further down, and the head is carried across.
        have hlater : key ∈ keys rest := by
          rcases List.mem_cons.1 hmem with heq | hlater
          · exact absurd heq.symm hkey
          · exact hlater
        have hreplaced : Admissions.replace (pair :: rest) key result
            = pair :: Admissions.replace rest key result := by
          simp [replace, hkey]
        rw [hreplaced, List.filter_cons_of_pos (by simpa using hkey)]
        exact (List.Perm.swap _ _ _).trans ((ih hrest hlater).cons pair)

end Admissions

namespace Table

variable {κ β : Type} [DecidableEq κ]

/-- A value that a map gives stands in one of its pairs. -/
theorem mem_of_get? {table : Table κ β} {key : κ} {value : β} (h : table.get? key = some value) :
    (key, value) ∈ table.pairs := by
  unfold get? at h
  obtain ⟨pair, hfind, rfl⟩ := Option.map_eq_some_iff.1 h
  have hkey : pair.1 = key := by
    simpa using List.find?_some hfind
  rw [← hkey]
  exact List.mem_of_find?_eq_some hfind

/-- A map gives no value exactly for the keys it does not list. -/
theorem get?_eq_none {table : Table κ β} {key : κ} :
    table.get? key = none ↔ key ∉ table.keys := by
  simp only [get?, keys, Option.map_eq_none_iff, List.find?_eq_none, List.mem_map, not_exists,
    not_and, decide_eq_true_eq]

end Table

namespace Cache

variable {α β : Type}

/-- Queue and entries list the same keys, each of them once, and no more
than there may be. -/
structure InStep (cache : Cache α β) : Prop where
  queue_nodup : cache.queue.Nodup
  keys_perm : cache.entries.keys.Perm cache.queue
  length_le : cache.queue.length ≤ cache.capacity

/-- The cache holds the results of the list, admitted in this order. -/
structure Represents (cache : Cache α β) (pairs : Admissions α β) : Prop where
  queue_eq : cache.queue = pairs.keys
  entries_perm : cache.entries.pairs.Perm pairs
  nodup : pairs.keys.Nodup
  length_le : pairs.length ≤ cache.capacity
  capacity_pos : 0 < cache.capacity

/-- A cache that holds what a list holds is in step. -/
theorem Represents.inStep {cache : Cache α β} {pairs : Admissions α β}
    (h : cache.Represents pairs) : cache.InStep where
  queue_nodup := by
    rw [h.queue_eq]
    exact h.nodup
  keys_perm := by
    rw [h.queue_eq]
    exact h.entries_perm.map Prod.fst
  length_le := by
    rw [h.queue_eq, Admissions.keys, List.length_map]
    exact h.length_le

/-- A new cache holds nothing, and has room for one result at least. -/
theorem represents_empty (name : String) (capacity : Nat) :
    (empty name capacity : Cache α β).Represents [] where
  queue_eq := rfl
  entries_perm := .nil
  nodup := List.nodup_nil
  length_le := Nat.zero_le _
  capacity_pos := Nat.lt_of_lt_of_le Nat.one_pos (Nat.le_max_right _ _)

/-- A cleared cache holds nothing. -/
theorem Represents.clear {cache : Cache α β} {pairs : Admissions α β}
    (h : cache.Represents pairs) : cache.clear.Represents [] where
  queue_eq := rfl
  entries_perm := .nil
  nodup := List.nodup_nil
  length_le := Nat.zero_le _
  capacity_pos := h.capacity_pos

/-- Both sides hold equally many results. -/
theorem Represents.size_eq {cache : Cache α β} {pairs : Admissions α β}
    (h : cache.Represents pairs) : cache.size = pairs.length :=
  h.entries_perm.length_eq

variable [DecidableEq α]

/-! ### Reading -/

/-- Both sides give the same result for every key. -/
theorem Represents.get?_eq {cache : Cache α β} {pairs : Admissions α β}
    (h : cache.Represents pairs) (key : Key α) : cache.get? key = pairs.lookup key := by
  cases hget : cache.get? key with
  | some result =>
      have hmem := h.entries_perm.mem_iff.1 (Table.mem_of_get? hget)
      exact ((Admissions.lookup_eq_some h.nodup).2 hmem).symm
  | none =>
      -- A key in the list would be in the queue, hence among the entries.
      have hmissing : key ∉ pairs.keys := by
        intro hmem
        rw [← h.queue_eq, ← h.inStep.keys_perm.mem_iff] at hmem
        exact Table.get?_eq_none.1 hget hmem
      refine (List.lookup_eq_none_iff.2 fun pair hpair => ?_).symm
      simp only [bne_iff_ne, ne_eq]
      rintro rfl
      exact hmissing (List.mem_map_of_mem hpair)

/-- The keys that have a result are those in the queue. -/
theorem InStep.isSome_get? {cache : Cache α β} (h : cache.InStep) (key : Key α) :
    (cache.get? key).isSome ↔ key ∈ cache.queue := by
  rw [← h.keys_perm.mem_iff, ← Option.ne_none_iff_isSome, Ne, get?, Table.get?_eq_none, not_not]

/-! ### Writing -/

/-- Entering a result does not change for how many there is room. -/
@[simp]
theorem capacity_insert (cache : Cache α β) (key : Key α) (result : β) :
    (cache.insert key result).capacity = cache.capacity := by
  unfold insert
  split <;> rfl

/-- To erase keys one after the other is to keep the pairs of the other
keys. -/
theorem pairs_eraseAll (entries : Table (Key α) β) (keys : List (Key α)) :
    (eraseAll entries keys).pairs = entries.pairs.filter fun pair => pair.1 ∉ keys := by
  unfold eraseAll
  -- The fold erases from the entries, so they are generalized.
  induction keys generalizing entries with
  | nil => simp
  | cons first rest ih =>
      rw [List.foldl_cons, ih, Table.erase, List.filter_filter]
      simp [Bool.and_comm]

/-- A new key goes to the end of the queue. -/
theorem queue_insert_of_missing {cache : Cache α β} {key : Key α} (h : cache.get? key = none)
    (result : β) :
    (cache.insert key result).queue = cache.queue.drop cache.overflow ++ [key] := by
  rw [insert, h]
  rfl

/-- Keys at the end of the queue stay there, as long as there is room for
them and the new one. -/
theorem suffix_queue_insert {cache : Cache α β} {recent : List (Key α)}
    (hrecent : recent <:+ cache.queue) (hroom : recent.length < cache.capacity) {key : Key α}
    (h : cache.get? key = none) (result : β) :
    recent ++ [key] <:+ (cache.insert key result).queue := by
  obtain ⟨older, hqueue⟩ := hrecent
  -- What has to go is among the older keys.
  have hfew : cache.overflow ≤ older.length := by
    rw [overflow, ← hqueue, List.length_append]
    omega
  rw [queue_insert_of_missing h, ← hqueue, List.drop_append_of_le_length hfew, List.append_assoc]
  exact List.suffix_append _ _

/-- A key that is missing differs from those at the end of the queue. -/
theorem InStep.nodup_recent {cache : Cache α β} (hstep : cache.InStep) {recent : List (Key α)}
    (hrecent : recent <:+ cache.queue) {key : Key α} (h : cache.get? key = none) :
    (recent ++ [key]).Nodup := by
  have hnew : key ∉ recent := by
    intro hmem
    have hheld := (hstep.isSome_get? key).2 (hrecent.subset hmem)
    rw [h] at hheld
    cases hheld
  exact (hstep.queue_nodup.sublist hrecent.sublist).append (List.nodup_singleton key)
    (List.disjoint_singleton.2 hnew)

/-- A result under a new key changes no other that stays in the queue. -/
theorem get?_insert_of_mem_queue {cache : Cache α β} {key other : Key α} {result held : β}
    (hstep : (cache.insert key result).InStep) (hmissing : cache.get? key = none)
    (hheld : cache.get? other = some held) (hqueue : other ∈ (cache.insert key result).queue) :
    (cache.insert key result).get? other = some held := by
  rw [← hstep.isSome_get?] at hqueue
  obtain ⟨found, hfound⟩ := Option.isSome_iff_exists.1 hqueue
  rcases get?_of_insert hfound with ⟨rfl, -⟩ | hbefore
  · -- The new key was not held.
    rw [hmissing] at hheld
    cases hheld
  · rw [hfound, ← hbefore, hheld]

/-- Dropping the same keys from queue and entries. -/
theorem Represents.dropKeys {cache : Cache α β} {pairs kept : Admissions α β}
    (h : cache.Represents pairs) {dropped : List (Key α)}
    (hkept : (pairs.filter fun pair => pair.1 ∉ dropped) = kept) :
    ({ cache with
        entries := eraseAll cache.entries dropped
        queue := kept.keys } : Cache α β).Represents kept := by
  -- What is kept stays in its order.
  have hsub : kept.Sublist pairs := by
    rw [← hkept]
    exact List.filter_sublist
  constructor
  case queue_eq => rfl
  case entries_perm =>
    show (eraseAll cache.entries dropped).pairs.Perm kept
    rw [pairs_eraseAll, ← hkept]
    exact h.entries_perm.filter _
  case nodup => exact h.nodup.sublist (hsub.map Prod.fst)
  case length_le => exact Nat.le_trans hsub.length_le h.length_le
  case capacity_pos => exact h.capacity_pos

/-- The keys at the front of a list without repetitions belong to the
pairs at the front and to no others. -/
theorem filter_not_mem_take {pairs : Admissions α β} (hnodup : pairs.keys.Nodup) (count : Nat) :
    (pairs.filter fun pair => pair.1 ∉ pairs.keys.take count) = pairs.drop count := by
  have hfront : ∀ pair ∈ pairs.take count, pair.1 ∈ pairs.keys.take count := by
    intro pair hpair
    rw [Admissions.keys, ← List.map_take]
    exact List.mem_map_of_mem hpair
  have hback : ∀ pair ∈ pairs.drop count, pair.1 ∉ pairs.keys.take count := by
    intro pair hpair
    have hmem : pair.1 ∈ pairs.keys.drop count := by
      rw [Admissions.keys, ← List.map_drop]
      exact List.mem_map_of_mem hpair
    exact fun htake => List.disjoint_take_drop hnodup (Nat.le_refl count) htake hmem
  -- Front and back are filtered apart: nothing stays of one, all of the other.
  have hsplit := List.filter_append (p := fun pair => pair.1 ∉ pairs.keys.take count)
    (pairs.take count) (pairs.drop count)
  rw [List.take_append_drop] at hsplit
  rw [hsplit, List.filter_eq_nil_iff.2 (by simpa using hfront),
    List.filter_eq_self.2 (by simpa using hback), List.nil_append]

/-- Making room drops the same results from both sides. -/
theorem Represents.makeRoom {cache : Cache α β} {pairs : Admissions α β}
    (h : cache.Represents pairs) :
    cache.makeRoom.Represents (pairs.makeRoom cache.capacity) := by
  -- As many pairs as there are keys too many, from the front.
  have hoverflow : cache.overflow = pairs.length + 1 - cache.capacity := by
    rw [overflow, h.queue_eq, Admissions.keys, List.length_map]
  have hkept := filter_not_mem_take h.nodup cache.overflow
  have hqueue : cache.queue.drop cache.overflow
      = Admissions.keys (pairs.drop cache.overflow) := by
    rw [h.queue_eq, Admissions.keys, Admissions.keys, List.map_drop]
  rw [Admissions.makeRoom_eq_drop, ← hoverflow, Cache.makeRoom, hqueue]
  rw [← h.queue_eq] at hkept
  exact h.dropKeys hkept

/-- Both sides drop the results that depend on an input. -/
theorem Represents.invalidate {cache : Cache α β} {pairs : Admissions α β}
    (h : cache.Represents pairs) (tag : Tag) :
    (cache.invalidate tag).Represents (pairs.without tag) := by
  -- Every pair of the list has its key in the queue.
  have hkept : (pairs.filter fun pair => pair.1 ∉ cache.queue.filter (·.dependsOn tag))
      = pairs.without tag := by
    apply List.filter_congr
    intro pair hpair
    have hmem : pair.1 ∈ cache.queue := by
      rw [h.queue_eq]
      exact List.mem_map_of_mem hpair
    simp [List.mem_filter, hmem]
  have hqueue : (cache.queue.filter fun key => !key.dependsOn tag) = (pairs.without tag).keys := by
    rw [h.queue_eq, Admissions.keys, Admissions.keys, Admissions.without, List.filter_map]
    rfl
  rw [Cache.invalidate, hqueue]
  exact h.dropKeys hkept

/-- A new result goes last. -/
theorem Represents.append {cache : Cache α β} {pairs : Admissions α β}
    (h : cache.Represents pairs) {key : Key α} (hnew : key ∉ pairs.keys)
    (hroom : pairs.length < cache.capacity) (result : β) :
    ({ cache with
        entries := cache.entries.insert key result
        queue := cache.queue ++ [key] } : Cache α β).Represents (pairs ++ [(key, result)]) := by
  constructor
  case queue_eq => rw [Admissions.keys_concat, h.queue_eq]
  case entries_perm =>
    -- There is no old entry that the new one could displace.
    have hothers := h.entries_perm.filter fun pair => pair.1 ≠ key
    rw [Admissions.filter_ne_of_not_mem hnew] at hothers
    exact (hothers.cons _).trans (List.perm_append_singleton _ _).symm
  case nodup => exact Admissions.nodup_keys_concat h.nodup hnew result
  case length_le =>
    rw [List.length_append, List.length_singleton]
    exact hroom
  case capacity_pos => exact h.capacity_pos

/-- Replacing a result keeps its key in place. -/
theorem Represents.replace {cache : Cache α β} {pairs : Admissions α β}
    (h : cache.Represents pairs) {key : Key α} (hmem : key ∈ pairs.keys) (result : β) :
    ({ cache with entries := cache.entries.insert key result } : Cache α β).Represents
      (pairs.replace key result) := by
  constructor
  case queue_eq => rw [Admissions.keys_replace, h.queue_eq]
  case entries_perm =>
    -- The order of the keys stays, that of the table may change.
    have hothers := h.entries_perm.filter fun pair => pair.1 ≠ key
    exact (hothers.cons _).trans (Admissions.replace_perm h.nodup hmem result)
  case nodup =>
    rw [Admissions.keys_replace]
    exact h.nodup
  case length_le =>
    rw [Admissions.replace, List.length_map]
    exact h.length_le
  case capacity_pos => exact h.capacity_pos

/-- Entering a result does the same to both sides, under an old key or a
new one. -/
theorem Represents.insert {cache : Cache α β} {pairs : Admissions α β}
    (h : cache.Represents pairs) (key : Key α) (result : β) :
    (cache.insert key result).Represents (pairs.enter cache.capacity key result) := by
  by_cases hmem : key ∈ pairs.keys
  · have hheld : (cache.get? key).isSome := by
      rw [h.inStep.isSome_get?, h.queue_eq]
      exact hmem
    rw [Cache.insert, if_pos hheld, Admissions.enter, if_pos hmem]
    exact h.replace hmem result
  · have hmissing : ¬ (cache.get? key).isSome := by
      rw [h.inStep.isSome_get?, h.queue_eq]
      exact hmem
    rw [Cache.insert, if_neg hmissing, Admissions.enter, if_neg hmem]
    -- The new key is not among those that stay, and after the drop there is room.
    rw [Admissions.makeRoom_eq_drop]
    have hroom := h.makeRoom
    rw [Admissions.makeRoom_eq_drop] at hroom
    refine hroom.append ?_ ?_ result
    · exact fun hkept => hmem ((List.drop_sublist _ _).map Prod.fst |>.subset hkept)
    · show (pairs.drop (pairs.length + 1 - cache.capacity)).length < cache.capacity
      have hpos := h.capacity_pos
      rw [List.length_drop]
      omega

end Cache

end InteriorPoint
