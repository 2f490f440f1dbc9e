import InteriorPoint.Proofs.Cache.Admission
import InteriorPoint.Proofs.Engine.Agreement
import InteriorPoint.Proofs.Quantity.Demands
import InteriorPoint.Proofs.Session

/-!
# `InteriorPoint.Proofs.Engine.ComputedOnce`: the caches are large enough for one state

A cache that is full drops what was admitted first, and a result that is
read again does not become younger by that. When a state is new, its
caches are full of results for former states. Still no result that is
asked for in one state is computed a second time, in whatever order the
requests come, as long as complementarity is asked for with no more than
four pairs of a number and a norm (`Reachable.missed_le_one`).

The reason is in the queues. Every queue ends with the keys for which the
cache has reported a miss since the state became current, in this order
(`Recent`). A further key makes the cache drop from the front. By
`Setting.card_keys_le` the recent keys and the new one are no more than
the cache has room for, so only older keys are dropped
(`Recent.insert`).

Between the report and the insertion the formula is executed, and it
fills caches on its own account. These belong to quantities of smaller
rank, so the cache of the quantity itself is what it was
(`Memory.Admits`).
-/

set_option autoImplicit false

namespace InteriorPoint

variable {α : Type}

/-! ### Names of caches -/

namespace Slot

/-- All slots. -/
def all : List (Sigma Slot) :=
  Family.all.flatMap (fun family => [⟨_, slack .current family⟩, ⟨_, slack .trial family⟩,
      ⟨_, complementarity family⟩, ⟨_, relaxedComplementarity family⟩])
    ++ [Point.current, .trial].flatMap (fun point => [⟨_, objective point⟩,
      ⟨_, barrierObjective point⟩, ⟨_, constraint .equality point⟩,
      ⟨_, constraint .inequality point⟩, ⟨_, inequalityResidual point⟩,
      ⟨_, constraintViolation point⟩, ⟨_, primalInfeasibility point⟩,
      ⟨_, meanComplementarity point⟩])
    ++ [Group.equality, .inequality].flatMap (fun group => [⟨_, jacobian group⟩,
      ⟨_, jacobianTimes group⟩, ⟨_, jacobianTransposeTimes group⟩])
    ++ [Block.x, .s].flatMap (fun block => [⟨_, barrierGradient block⟩,
      ⟨_, lagrangianGradient block⟩, ⟨_, primalDualScaling block⟩])
    ++ [⟨_, objectiveGradient⟩, ⟨_, directionalDerivative⟩, ⟨_, hessian⟩, ⟨_, dualInfeasibility⟩,
      ⟨_, complementarityNorm⟩, ⟨_, centralityMeasure⟩, ⟨_, problemError⟩, ⟨_, barrierError⟩,
      ⟨_, meanError⟩, ⟨_, meanBarrierError⟩, ⟨_, primalStepLimit⟩, ⟨_, dualStepLimit⟩,
      ⟨_, slackStepLimit⟩]

/-- Every slot is in the list. -/
theorem mem_all {k : Kind} (slot : Slot k) : (⟨k, slot⟩ : Sigma Slot) ∈ all := by
  -- One case for each quantity, split into its points, blocks, groups and families.
  cases slot
  case slack point family => cases point <;> rcases family with ⟨_ | _, _ | _⟩ <;> decide
  case complementarity family => rcases family with ⟨_ | _, _ | _⟩ <;> decide
  case relaxedComplementarity family => rcases family with ⟨_ | _, _ | _⟩ <;> decide
  case constraint group point => cases group <;> cases point <;> decide
  case objective point | barrierObjective point | inequalityResidual point
      | constraintViolation point | primalInfeasibility point | meanComplementarity point =>
    cases point <;> decide
  case jacobian group | jacobianTimes group | jacobianTransposeTimes group =>
    cases group <;> decide
  case barrierGradient block | lagrangianGradient block | primalDualScaling block =>
    cases block <;> decide
  all_goals decide

/-- The names in the list are all different. -/
theorem nodup_names : (all.map fun slot => slot.2.name).Nodup := by
  decide +kernel

/-- No two caches have the same name. -/
theorem eq_of_name_eq {k k' : Kind} {slot : Slot k} {other : Slot k'}
    (h : slot.name = other.name) : (⟨k, slot⟩ : Sigma Slot) = ⟨k', other⟩ :=
  List.inj_on_of_nodup_map nodup_names (mem_all slot) (mem_all other) h

end Slot

/-! ### Reported misses -/

/-- The keys for which a cache has reported a miss, in order. -/
def missed (events : List (Event α)) {k : Kind} (slot : Slot k) : List (Key α) :=
  events.filterMap fun
    | .missed name key => if name = slot.name then some key else none
    | _ => none

/-- What was missed in both parts was missed in one of them. -/
theorem missed_append (events events' : List (Event α)) {k : Kind} (slot : Slot k) :
    missed (events ++ events') slot = missed events slot ++ missed events' slot :=
  List.filterMap_append

/-- A miss is one of the cache that reports it. -/
theorem missed_self {k : Kind} (slot : Slot k) (key : Key α) :
    missed [.missed slot.name key] slot = [key] := by
  simp [missed]

/-- It is none of any other cache, because that has another name. -/
theorem missed_of_ne {k k' : Kind} {slot : Slot k} {other : Slot k'}
    (hne : (⟨k', other⟩ : Sigma Slot) ≠ ⟨k, slot⟩) (key : Key α) :
    missed [.missed slot.name key] other = [] := by
  have hname : slot.name ≠ other.name := fun h => hne (Slot.eq_of_name_eq h).symm
  simp [missed, hname]

/-- Other events are no misses. -/
theorem missed_of_silent {event : Event α} (h : ∀ name key, event ≠ .missed name key) {k : Kind}
    (slot : Slot k) : missed [event] slot = [] := by
  cases event with
  | missed name key => exact absurd rfl (h name key)
  | _ => rfl

variable [Scalar α]

/-- To count the misses of a cache is to count their keys. -/
theorem count_missed (events : List (Event α)) {k : Kind} (slot : Slot k) (key : Key α) :
    events.count (.missed slot.name key) = (missed events slot).count key := by
  induction events with
  | nil => rfl
  | cons event rest ih =>
      have hsplit : missed (event :: rest) slot = missed [event] slot ++ missed rest slot :=
        missed_append [event] rest slot
      rw [List.count_cons, ih, hsplit, List.count_append, Nat.add_comm]
      congr 1
      cases event with
      | missed name other =>
          -- Events of other caches, and other events, count on neither side.
          by_cases hname : name = slot.name
          · subst hname
            rw [missed_self, List.count_singleton]
            by_cases hkey : other = key <;> simp [hkey]
          · simp [missed, hname]
      | _ => simp [missed]

/-! ### The end of a queue -/

/-- The cache of a slot, whose queue ends with the keys in `recent`. All
of them are asked for in the present state. -/
structure Recent (setting : Setting α) (pairs : Finset (α × Norm)) {k : Kind} (slot : Slot k)
    (cache : Cache α (Kept α k)) (recent : List (Key α)) : Prop where
  represents : ∃ admissions, cache.Represents admissions
  capacity : cache.capacity = slot.capacity
  suffix : recent <:+ cache.queue
  wanted : ∀ key ∈ recent, setting.Wanted pairs slot key

section
variable {setting : Setting α} {pairs : Finset (α × Norm)}

/-- A further key displaces older keys only. -/
theorem Recent.insert (hpairs : pairs.card ≤ 4) {k : Kind} {slot : Slot k}
    {cache : Cache α (Kept α k)} {recent : List (Key α)}
    (h : Recent setting pairs slot cache recent) {key : Key α}
    (hkey : setting.Wanted pairs slot key) (hmissing : cache.get? key = none) (kept : Kept α k) :
    Recent setting pairs slot (cache.insert key kept) (recent ++ [key]) := by
  obtain ⟨⟨admissions, hrep⟩, hcapacity, hsuffix, hwanted⟩ := h
  have hall : ∀ other ∈ recent ++ [key], setting.Wanted pairs slot other := by
    intro other hmem
    rcases List.mem_append.1 hmem with hold | hnew
    · exact hwanted other hold
    · rw [List.mem_singleton.1 hnew]
      exact hkey
  -- The recent keys and the new one are different, so there are not too many of them.
  have hnodup := hrep.inStep.nodup_recent hsuffix hmissing
  have hroom : (recent ++ [key]).length ≤ cache.capacity := by
    rw [hcapacity, ← List.toFinset_card_of_nodup hnodup]
    exact Setting.card_keys_le hpairs slot fun other hmem => hall other (List.mem_toFinset.1 hmem)
  rw [List.length_append, List.length_singleton] at hroom
  refine ⟨⟨_, hrep.insert key kept⟩, ?_, ?_, hall⟩
  · rw [Cache.capacity_insert, hcapacity]
  · exact Cache.suffix_queue_insert hsuffix hroom hmissing kept

/-! ### Evaluations -/

/-- Between the two stores, caches of rank below `bound` reported misses.
What was recent before is recent afterwards, and so are the keys that
were missed. -/
structure Admits (setting : Setting α) (pairs : Finset (α × Norm)) (bound : Nat) (store : Store α)
    (events : List (Event α)) (store' : Store α) : Prop where
  quiet : ∀ ⦃k : Kind⦄ (slot : Slot k), bound ≤ slot.rank → missed events slot = []
  recent : ∀ ⦃k : Kind⦄ (slot : Slot k) (keys : List (Key α)),
    Recent setting pairs slot (store.cache slot) keys →
      Recent setting pairs slot (store'.cache slot) (keys ++ missed events slot)

/-- If no cache reports a miss, none needs to take anything in. -/
theorem Admits.of_silent (bound : Nat) (store : Store α) {events : List (Event α)}
    (h : ∀ ⦃k : Kind⦄ (slot : Slot k), missed events slot = []) :
    Admits setting pairs bound store events store where
  quiet _ slot _ := h slot
  recent _ slot keys hrecent := by
    rw [h slot, List.append_nil]
    exact hrecent

/-- What was missed first is recent when more is missed. -/
theorem Admits.trans {bound : Nat} {store store' store'' : Store α}
    {events events' : List (Event α)}
    (h : Admits setting pairs bound store events store')
    (h' : Admits setting pairs bound store' events' store'') :
    Admits setting pairs bound store (events ++ events') store'' where
  quiet _ slot hrank := by
    rw [missed_append, h.quiet slot hrank, h'.quiet slot hrank, List.append_nil]
  recent _ slot keys hrecent := by
    rw [missed_append, ← List.append_assoc]
    exact h'.recent slot _ (h.recent slot keys hrecent)

/-- If caches up to a bound report misses, so do those up to a higher one.
-/
theorem Admits.mono {bound bound' : Nat} {store store' : Store α} {events : List (Event α)}
    (h : Admits setting pairs bound store events store') (hle : bound ≤ bound') :
    Admits setting pairs bound' store events store' :=
  ⟨fun _ slot hrank => h.quiet slot (Nat.le_trans hle hrank), h.recent⟩

/-- A result is missed, its formula is executed, and then it is stored. -/
theorem Admits.remember (hpairs : pairs.card ≤ 4) {k : Kind} {q : Quantity α k} {key : Key α}
    {store store' : Store α} {events : List (Event α)}
    (h : Admits setting pairs q.rank store events store')
    (hwanted : setting.Wanted pairs q.slot key) (hmissing : store'.held? q.slot key = none)
    (kept : Kept α k) :
    Admits setting pairs (q.rank + 1) store (.missed q.slot.name key :: events)
      (store'.remember q.slot key kept) := by
  have hsplit : ∀ {k' : Kind} (slot : Slot k'),
      missed (.missed q.slot.name key :: events) slot
        = missed [.missed q.slot.name key] slot ++ missed events slot :=
    fun slot => missed_append [_] events slot
  constructor
  -- A cache of higher rank is not the one that was missed.
  case quiet =>
    intro k' slot hrank
    have hne : (⟨k', slot⟩ : Sigma Slot) ≠ ⟨k, q.slot⟩ := by
      intro hsame
      cases hsame
      rw [q.slot_rank] at hrank
      omega
    rw [hsplit, missed_of_ne hne, h.quiet slot (Nat.le_of_succ_le hrank), List.append_nil]
  case recent =>
    intro k' slot keys hrecent
    have hformula := h.recent slot keys hrecent
    rw [hsplit]
    by_cases hsame : (⟨k', slot⟩ : Sigma Slot) = ⟨k, q.slot⟩
    · -- The formula has not used this cache, so the key is the only new one.
      cases hsame
      have hquiet := h.quiet q.slot (Nat.le_of_eq q.slot_rank.symm)
      rw [hquiet, List.append_nil] at hformula
      rw [missed_self, hquiet, List.append_nil, Store.remember, Store.cache_setCache_self]
      exact hformula.insert hpairs hwanted hmissing kept
    · rw [missed_of_ne hsame, List.nil_append, Store.cache_remember_of_ne store' hsame]
      exact hformula

end

namespace Setting

/-- The pairs for which the formula of an error measure has asked, if it
was executed. -/
def innerPairs (setting : Setting α) {k : Kind} (quantity : Quantity α k)
    (events : List (Event α)) : List (α × Norm) :=
  match missed events quantity.slot with
  | [] => []
  | _ :: _ => (setting.innerPair? quantity).toList

/-- The quantity is asked for in this state, with these pairs only. -/
structure Allows (setting : Setting α) (pairs : Finset (α × Norm)) {k : Kind}
    (quantity : Quantity α k) (events : List (Event α)) : Prop where
  standing : setting.Standing quantity
  own : ∀ pair, quantity.pair? = some pair → pair ∈ pairs
  inner : ∀ pair ∈ setting.innerPairs quantity events, pair ∈ pairs

end Setting

section
variable {setting : Setting α} {pairs : Finset (α × Norm)} {k : Kind} {q : Quantity α k}

/-- The pair of an error measure is what its formula hands on. -/
theorem Setting.IsPart.allows {k' : Kind} {part : Quantity α k'} (h : setting.IsPart q part)
    (hinner : ∀ pair, setting.innerPair? q = some pair → pair ∈ pairs) (events : List (Event α)) :
    setting.Allows pairs part events where
  standing := h.standing
  own pair hpair := hinner pair (h.pair pair hpair)
  inner pair hmem := by
    rw [Setting.innerPairs, h.inner] at hmem
    split at hmem <;> cases hmem

/-- A quantity that was missed has asked for its pair. -/
theorem Setting.Allows.inner_of_missed {key : Key α} {events : List (Event α)}
    (h : setting.Allows pairs q (.missed q.slot.name key :: events)) (pair : α × Norm)
    (hpair : setting.innerPair? q = some pair) : pair ∈ pairs := by
  apply h.inner
  have hmissed : missed (.missed q.slot.name key :: events) q.slot
      = key :: missed events q.slot := by
    simp [missed]
  rw [Setting.innerPairs, hmissed, hpair]
  exact List.mem_singleton_self pair

end

namespace Memory

variable {setting : Setting α} {pairs : Finset (α × Norm)}

/-- What an answer does to the queues. -/
structure Settles (setting : Setting α) (pairs : Finset (α × Norm)) {k : Kind} (q : Quantity α k)
    (m : Memory α) (r : Checked α (Kept α k)) (m' : Memory α) : Prop where
  frame : Frame (q.rank + 1) m m'
  admits : ∀ kept, r = .ok kept → ∃ events, m'.events = m.events ++ events
    ∧ (setting.Allows pairs q events →
      Admits setting pairs (q.rank + 1) m.store events m'.store)

/-- The formula of a quantity admits what its parts admit. -/
theorem Executes.admits {answers : Answers α} {k : Kind} {q : Quantity α k} {bound : Nat} {β : Type}
    {p : Program α bound β} {m m' : Memory α} {r : Checked α β} {returns : β → Prop}
    (h : Executes answers p m r m')
    (hanswers : ∀ {k : Kind} {part : Quantity α k} {m r m'}, answers part m r m' →
      Settles setting pairs part m r m')
    (hp : p.Within (setting.IsPart q) (fun event => ∀ name key, event ≠ .missed name key) returns)
    {value : β} (hr : r = .ok value) :
    ∃ events, m'.events = m.events ++ events
      ∧ ((∀ pair, setting.innerPair? q = some pair → pair ∈ pairs) →
        Admits setting pairs bound m.store events m'.store) := by
  induction h with
  | done => exact ⟨[], (List.append_nil _).symm, fun _ => .of_silent _ _ fun _ _ => rfl⟩
  | fail => cases hr
  | @report event next m m' r _ ih =>
      obtain ⟨events, heq, hadmits⟩ := ih hp.2 hr
      refine ⟨event :: events, ?_, fun hinner => ?_⟩
      · rw [heq, List.append_cons]
        rfl
      · exact Admits.trans (.of_silent _ _ fun _ slot => missed_of_silent hp.1 slot)
          (hadmits hinner)
  | @ask k part lower next m m₁ m' kept r hpart _ ih =>
      obtain ⟨events, heq, hadmits⟩ := (hanswers hpart).admits kept rfl
      obtain ⟨events', heq', hadmits'⟩ := ih (hp.2 _) hr
      -- The part has a smaller rank, so what it missed is within the bound.
      refine ⟨events ++ events', ?_, fun hinner => ?_⟩
      · rw [heq', heq, List.append_assoc]
      · exact ((hadmits (hp.1.allows hinner events)).mono lower).trans (hadmits' hinner)
  | refused => cases hr

/-- If the answers to the parts of a formula settle, so does the answer
for the quantity. -/
theorem settles_of_answered (hpairs : pairs.card ≤ 4) {k : Kind} {q : Quantity α k}
    {m m' : Memory α}
    {r : Checked α (Kept α k)}
    (h : Answered setting (fun _ => Settles setting pairs) q m r m') :
    Settles setting pairs q m r m' := by
  cases h with
  | refused => exact ⟨.refl _ _, fun _ hr => nomatch hr⟩
  | held =>
      exact ⟨.refl _ _, fun _ _ => ⟨[], (List.append_nil _).symm, fun _ =>
        .of_silent _ _ fun _ _ => rfl⟩⟩
  | @copied key kept hkey hown hother =>
      refine ⟨Frame.remember _ q _ _, fun _ _ =>
        ⟨[.missed q.slot.name key], rfl, fun hallows => ?_⟩⟩
      -- A copy is stored under a key that is wanted as well.
      have hwanted : setting.Wanted pairs q.slot key :=
        ⟨q, hallows.standing, hallows.own, rfl, hkey⟩
      exact Admits.remember hpairs (.of_silent _ _ fun _ _ => rfl) hwanted hown kept
  | failed _ hformula =>
      exact ⟨(hformula.frame Settles.frame).mono (Nat.le_succ _), fun _ hr => nomatch hr⟩
  | @computed key value m' hmissing hformula =>
      have hframe := hformula.frame Settles.frame
      obtain ⟨events, heq, hadmits⟩ := hformula.admits id (Quantity.formula_standing setting q) rfl
      refine ⟨(hframe.mono (Nat.le_succ _)).trans (Frame.remember _ q _ _), fun _ _ =>
        ⟨.missed q.slot.name key :: events, ?_, fun hallows => ?_⟩⟩
      · rw [List.append_cons]
        exact heq
      · have hwanted : setting.Wanted pairs q.slot key :=
          ⟨q, hallows.standing, hallows.own, rfl, hmissing.key_eq⟩
        -- The formula has not filled the cache of the quantity itself.
        have hstill : m'.store.held? q.slot key = none := by
          rw [hframe.held?_eq (Nat.le_of_eq q.slot_rank.symm)]
          exact hmissing.own
        exact (hadmits hallows.inner_of_missed).remember hpairs hwanted hstill _

/-- All answers settle. -/
theorem evaluate_settles (hpairs : pairs.card ≤ 4) {k : Kind} (q : Quantity α k) (m : Memory α) :
    Settles setting pairs q m ((evaluate setting q).run m).1 ((evaluate setting q).run m).2 :=
  evaluate_rule setting (fun _ _ _ _ => settles_of_answered hpairs) q m

end Memory

/-! ### Stores that can come about -/

/-- Every cache is a list of admissions, and has the room of its slot. -/
def Store.Tidy (store : Store α) : Prop :=
  ∀ ⦃k : Kind⦄ (slot : Slot k), (store.cache slot).capacity = slot.capacity
    ∧ ∃ admissions, (store.cache slot).Represents admissions

omit [Scalar α] in
/-- New caches are tidy. -/
theorem Store.tidy_empty : ({} : Store α).Tidy := by
  intro k slot
  have hcache : ({} : Store α).cache slot = .empty slot.name slot.capacity := by
    cases k <;> rfl
  rw [hcache]
  exact ⟨Nat.max_eq_left slot.capacity_pos, [], Cache.represents_empty _ _⟩

/-- Keeping a result leaves the caches tidy. -/
theorem Store.Tidy.remember {store : Store α} (h : store.Tidy) {k : Kind} (slot : Slot k)
    (key : Key α) (kept : Kept α k) : (store.remember slot key kept).Tidy := by
  intro k' other
  by_cases hsame : (⟨k', other⟩ : Sigma Slot) = ⟨k, slot⟩
  · cases hsame
    obtain ⟨hcapacity, admissions, hrep⟩ := h slot
    rw [Store.remember, Store.cache_setCache_self]
    exact ⟨(Cache.capacity_insert _ key kept).trans hcapacity, _, hrep.insert key kept⟩
  · rw [Store.cache_remember_of_ne store hsame]
    exact h other

/-- So does every evaluation, which keeps results and does nothing else.
-/
theorem Memory.evaluate_tidy (setting : Setting α) {k : Kind} (q : Quantity α k) (m : Memory α) :
    m.store.Tidy → ((evaluate setting q).run m).2.store.Tidy :=
  evaluate_relates (R := fun m m' => m.store.Tidy → m'.store.Tidy) (fun _ => id)
    (fun h₁ h₂ htidy => h₂ (h₁ htidy)) (fun _ _ => id) (fun _ => id)
    (fun _ _ slot key kept htidy => htidy.remember slot key kept) setting q m

namespace Engine

/-- Whatever an engine does, its caches stay tidy. -/
theorem Performed.tidy {engine engine' : Engine α} {supply supply' : Supply} {action : Action α}
    {events : List (Event α)} (h : Performed engine supply action engine' events supply')
    (htidy : engine.store.Tidy) : engine'.store.Tidy := by
  -- Caches change by an answer only, or are replaced by new ones.
  cases h with
  | refused => exact htidy
  | @answered _ _ q => exact Memory.evaluate_tidy engine.setting q (engine.memory supply) htidy
  | changed => exact htidy
  | options => exact Store.tidy_empty
  | callbacks => exact htidy
  | cleared => exact Store.tidy_empty
  | reset => exact htidy

/-- The caches are tidy in every engine that can come about. -/
theorem Reachable.tidy {engine : Engine α} (h : engine.Reachable) : engine.store.Tidy := by
  induction h with
  | new _ hnew =>
      obtain ⟨-, -, rfl⟩ := Engine.new_eq_ok.1 hnew
      exact Store.tidy_empty
  | perform _ action supply ih => exact (performed_perform _ action supply).tidy ih

end Engine

/-! ### Requests in one state -/

/-- The request passes neither a vector nor a fraction. -/
def Request.Plain {α : Type} : {k : Kind} → Request α k → Prop
  | _, .quantity q => q.Plain
  | _, .jacobianTransposeTimesMultipliers _ => True
  | _, .primalStepLimitAlongDirection _ | _, .dualStepLimitAlongDirection _ => False

omit [Scalar α] in
/-- A plain request stands for the same quantity as long as the state
stays. -/
theorem Request.Plain.standing {setting : Setting α} {k : Kind} {request : Request α k}
    (h : request.Plain) {q : Quantity α k} (hresolve : request.resolve setting.state = .ok q) :
    setting.Standing q := by
  cases request with
  | quantity =>
      cases hresolve
      cases q <;> first | exact trivial | exact False.elim h
  | jacobianTransposeTimesMultipliers group =>
      -- The multipliers of the current point are the only vectors that a plain request names.
      cases group with
      | equality =>
          cases hresolve
          exact Or.inl rfl
      | inequality =>
          cases hresolve
          exact Or.inr rfl
  | primalStepLimitAlongDirection => exact False.elim h
  | dualStepLimitAlongDirection => exact False.elim h

namespace Engine

/-- Plain requests one after the other, all of which are answered. The
state stays the same. Beside the events it is recorded for which pairs
complementarity was asked for, by the requests themselves and by the
formulas of error measures. -/
inductive Inquiry : Engine α → List (Event α) → List (α × Norm) → List (α × Norm) → Engine α → Prop
  where
  | nil (engine : Engine α) : Inquiry engine [] [] [] engine
  | cons {engine engine' : Engine α} {k : Kind} {request : Request α k} {q : Quantity α k}
      {reply : Reply α (Kept α k)} {kept : Kept α k} {supply supply' : Supply}
      {events : List (Event α)} {own inner : List (α × Norm)} (hplain : request.Plain)
      (hresolve : request.resolve engine.setting.state = .ok q)
      (hreply : engine.answer request supply = (reply, supply')) (hok : reply.result = .ok kept)
      (h : Inquiry reply.engine events own inner engine') :
      Inquiry engine (reply.events ++ events) (q.pair?.toList ++ own)
        (engine.setting.innerPairs q reply.events ++ inner) engine'

/-- An answer leaves the setting alone. -/
theorem setting_of_answer {engine : Engine α} {k : Kind} {request : Request α k}
    {q : Quantity α k} {reply : Reply α (Kept α k)} {supply supply' : Supply}
    (hresolve : request.resolve engine.setting.state = .ok q)
    (hreply : engine.answer request supply = (reply, supply')) :
    reply.engine.setting = engine.setting := by
  rw [answer_of_resolved hresolve] at hreply
  cases hreply
  rfl

/-- An answered request admits to the caches what they missed. -/
theorem admits_of_answer {engine : Engine α} {pairs : Finset (α × Norm)} (hpairs : pairs.card ≤ 4)
    {k : Kind} {request : Request α k} {q : Quantity α k} {reply : Reply α (Kept α k)}
    {kept : Kept α k} {supply supply' : Supply}
    (hresolve : request.resolve engine.setting.state = .ok q)
    (hreply : engine.answer request supply = (reply, supply')) (hok : reply.result = .ok kept)
    (hallows : engine.setting.Allows pairs q reply.events) :
    Admits engine.setting pairs (q.rank + 1) engine.store reply.events reply.engine.store := by
  rw [answer_of_resolved hresolve] at hreply
  cases hreply
  obtain ⟨events, heq, hadmits⟩ :=
    (Memory.evaluate_settles hpairs q (engine.memory supply)).admits kept hok
  -- The memory of a request starts without events.
  have hevents : ((Memory.evaluate engine.setting q).run (engine.memory supply)).2.events
      = events :=
    heq
  subst hevents
  exact hadmits hallows

/-- What was missed during an inquiry is recent at its end, in the order
of the misses. -/
theorem Inquiry.recent {engine engine' : Engine α} {events : List (Event α)}
    {own inner : List (α × Norm)} (h : Inquiry engine events own inner engine')
    {pairs : Finset (α × Norm)} (hpairs : pairs.card ≤ 4) (hown : ∀ pair ∈ own, pair ∈ pairs)
    (hinner : ∀ pair ∈ inner, pair ∈ pairs) {k : Kind} (slot : Slot k) {keys : List (Key α)}
    (hrecent : Recent engine.setting pairs slot (engine.store.cache slot) keys) :
    Recent engine.setting pairs slot (engine'.store.cache slot) (keys ++ missed events slot) := by
  induction h generalizing keys with
  | nil =>
      rw [show missed ([] : List (Event α)) slot = [] from rfl, List.append_nil]
      exact hrecent
  | @cons engine _ _ request q reply kept _ _ events own inner hplain hresolve hreply hok _ ih =>
      have hallows : engine.setting.Allows pairs q reply.events := by
        refine ⟨hplain.standing hresolve, fun pair hpair => ?_, fun pair hmem => ?_⟩
        · exact hown pair (List.mem_append_left _ (Option.mem_toList.2 hpair))
        · exact hinner pair (List.mem_append_left _ hmem)
      have hadmits := admits_of_answer hpairs hresolve hreply hok hallows
      -- First what this request missed, then what the others miss.
      have hmiddle := hadmits.recent slot keys hrecent
      rw [← setting_of_answer hresolve hreply] at hmiddle ⊢
      rw [missed_append, ← List.append_assoc]
      exact ih (fun pair hmem => hown pair (List.mem_append_right _ hmem))
        (fun pair hmem => hinner pair (List.mem_append_right _ hmem)) hmiddle

/-- The pairs for which the error measures ask. -/
def errorPairs (engine : Engine α) : List (α × Norm) :=
  [(Scalar.unsigned 0, .max), (Scalar.unsigned engine.setting.mu, .max), (Scalar.unsigned 0, .one),
    (Scalar.unsigned engine.setting.mu, .one)]

/-- Formulas of error measures ask for four pairs at most. -/
theorem Inquiry.inner_subset {engine engine' : Engine α} {events : List (Event α)}
    {own inner : List (α × Norm)} (h : Inquiry engine events own inner engine') :
    inner ⊆ engine.errorPairs := by
  induction h with
  | nil => exact List.nil_subset _
  | @cons engine _ _ request q reply kept _ _ events own inner hplain hresolve hreply hok _ ih =>
      -- Only the errors ask for pairs of their own, and each for a fixed one.
      refine List.append_subset.2 ⟨fun pair hmem => ?_, ?_⟩
      · rw [Setting.innerPairs] at hmem
        split at hmem
        · cases hmem
        · have hpair := Option.mem_toList.1 hmem
          cases q <;> cases hpair <;> simp [errorPairs]
      · rw [errorPairs, ← setting_of_answer hresolve hreply]
        exact ih

/-- From any engine that can come about, whatever its caches hold: in a
sequence of plain requests that are all answered, and during which the
state stays the same, no cache reports a miss for a key twice, so that
nothing is computed twice. The condition is that complementarity is asked
for with no more than four pairs, by the requests or by the formulas of
error measures, and these alone never exceed four. -/
theorem Reachable.missed_le_one {engine engine' : Engine α} (hreach : engine.Reachable)
    {events : List (Event α)} {own inner : List (α × Norm)}
    (h : Inquiry engine events own inner engine') :
    inner.toFinset.card ≤ 4
      ∧ ((own ++ inner).toFinset.card ≤ 4 →
        ∀ {k : Kind} (slot : Slot k) (key : Key α), events.count (.missed slot.name key) ≤ 1) := by
  constructor
  · have hsub : inner.toFinset ⊆ engine.errorPairs.toFinset := fun pair hmem =>
      List.mem_toFinset.2 (h.inner_subset (List.mem_toFinset.1 hmem))
    exact (Finset.card_le_card hsub).trans (List.toFinset_card_le _)
  · intro hpairs k slot key
    have hmem : ∀ pair ∈ own ++ inner, pair ∈ (own ++ inner).toFinset :=
      fun _ => List.mem_toFinset.2
    obtain ⟨hcapacity, admissions, hrep⟩ := hreach.tidy slot
    -- At the start nothing is recent. In the end everything that was missed is.
    have hstart : Recent engine.setting (own ++ inner).toFinset slot (engine.store.cache slot) [] :=
      ⟨⟨admissions, hrep⟩, hcapacity, List.nil_suffix, fun _ hkey => nomatch hkey⟩
    -- Recent keys stand in a queue, and a queue repeats none.
    have hrecent := h.recent hpairs (fun pair hown => hmem pair (List.mem_append_left _ hown))
      (fun pair hinner => hmem pair (List.mem_append_right _ hinner)) slot hstart
    rw [List.nil_append] at hrecent
    obtain ⟨_, hrep'⟩ := hrecent.represents
    rw [count_missed]
    exact List.nodup_iff_count_le_one.1
      (hrep'.inStep.queue_nodup.sublist hrecent.suffix.sublist) key

/-- One more request, for a quantity that is named outright. -/
theorem Inquiry.ask {engine engine' : Engine α} {k : Kind} {q : Quantity α k} {supply : Supply}
    {events : List (Event α)} {own inner : List (α × Norm)} (hplain : q.Plain)
    (hok : (engine.answer (.quantity q) supply).1.result.isOk = true)
    (h : Inquiry (engine.answer (.quantity q) supply).1.engine events own inner engine') :
    Inquiry engine ((engine.answer (.quantity q) supply).1.events ++ events)
      (q.pair?.toList ++ own)
      (engine.setting.innerPairs q (engine.answer (.quantity q) supply).1.events ++ inner)
      engine' := by
  -- A request in the sequence has an answer.
  cases hresult : (engine.answer (.quantity q) supply).1.result with
  | error error =>
      rw [hresult] at hok
      cases hok
  | ok kept =>
      have hrequest : (Request.quantity q).Plain := hplain
      exact .cons hrequest rfl rfl hresult h

end Engine

namespace HalfLine

/-- The engine of the half line after an error was computed and the trial
point was accepted. Its caches hold results for the former point. -/
def moved : Engine Binary64 :=
  ((engine.perform (.ask (.quantity .problemError)) ⟨40⟩).1.engine.perform (.change .acceptTrial)
    ⟨70⟩).1.engine

/-- Two errors and the complementarity between them need two of the four
pairs, and no key is missed twice. -/
theorem missed_le_one_halfLine :
    ∃ events own inner engine', moved.Inquiry events own inner engine'
      ∧ own = [(1, .max)] ∧ inner.toFinset.card = 2
      ∧ ∀ {k : Kind} (slot : Slot k) (key : Key Binary64),
        events.count (.missed slot.name key) ≤ 1 := by
  have hreach : moved.Reachable := .perform (.perform session.reachable _ _) _ _
  -- An error, its complementarity once more, another error, and the first one again.
  have hinquiry : ∃ events own inner engine', moved.Inquiry events own inner engine'
      ∧ own = [(1, .max)] ∧ inner.toFinset.card = 2 ∧ (own ++ inner).toFinset.card ≤ 4 := by
    let first := (moved.answer (.quantity .problemError) ⟨70⟩).1.engine
    let second := (first.answer (.quantity (.complementarityNorm 1 .max)) ⟨100⟩).1.engine
    let third := (second.answer (.quantity .barrierError) ⟨110⟩).1.engine
    let last := (third.answer (.quantity .problemError) ⟨120⟩).1.engine
    have h₁ : third.Inquiry _ _ _ last :=
      .ask (q := .problemError) trivial (by decide +kernel) (.nil _)
    have h₂ : second.Inquiry _ _ _ last :=
      .ask (q := .barrierError) trivial (by decide +kernel) h₁
    have h₃ : first.Inquiry _ _ _ last :=
      .ask (q := .complementarityNorm (1 : Binary64) .max) trivial (by decide +kernel) h₂
    have h₄ : moved.Inquiry _ _ _ last :=
      .ask (q := .problemError) trivial (by decide +kernel) h₃
    exact ⟨_, _, _, _, h₄, by decide +kernel, by decide +kernel, by decide +kernel⟩
  obtain ⟨events, own, inner, engine', hinquiry, hown, hinner, hpairs⟩ := hinquiry
  exact ⟨events, own, inner, engine', hinquiry, hown, hinner,
    (Engine.Reachable.missed_le_one hreach hinquiry).2 hpairs⟩

end HalfLine

end InteriorPoint
