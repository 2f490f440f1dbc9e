import InteriorPoint.Engine
import InteriorPoint.Proofs.Cache.Lookup
import InteriorPoint.Proofs.Quantity.Program

/-!
# `InteriorPoint.Proofs.Engine.Evaluation`: how a request runs

Answering a request ends in one of five ways, and `Answered` lists them
with everything that each of them does to the memory: the key refuses
the request, the cache of the quantity holds the result, the cache of
the other point does, the formula fails, or the formula gives a value,
which is placed in storage and stored. A formula runs step by step
(`Executes`).

Both relations leave open how the parts of a formula are answered.
`evaluate_rule` closes the circle: what one such step preserves, given
that the parts do, holds of every request. It is proved by induction on
the rank. Statements about stored results, reported events and counters
follow from it by a case split over `Answered` and an induction over
`Executes`, and none of them unfolds the evaluation again.
-/

set_option autoImplicit false

namespace InteriorPoint

variable {α : Type} [Scalar α]

namespace Store

/-- The result that the cache of a slot holds under a key. -/
def held? (store : Store α) {k : Kind} (slot : Slot k) (key : Key α) : Option (Kept α k) :=
  (store.cache slot).get? key

/-- The result that the cache of the other point holds under a key, if
there is such a cache. -/
def heldByCounterpart? (store : Store α) {k : Kind} (slot : Slot k) (key : Key α) :
    Option (Kept α k) :=
  slot.counterpart?.bind fun other => store.held? other key

/-- The store with a result added to the cache of a slot. -/
def remember (store : Store α) {k : Kind} (slot : Slot k) (key : Key α) (kept : Kept α k) :
    Store α :=
  store.setCache slot ((store.cache slot).insert key kept)

/-- Nothing is stored, so nothing is held. -/
@[simp]
theorem held?_empty {k : Kind} (slot : Slot k) (key : Key α) :
    ({} : Store α).held? slot key = none := by
  cases k <;> rfl

/-- A result that was stored is held. -/
@[simp]
theorem held?_remember_self (store : Store α) {k : Kind} (slot : Slot k) (key : Key α)
    (kept : Kept α k) : (store.remember slot key kept).held? slot key = some kept := by
  rw [held?, remember, cache_setCache_self, Cache.get?_insert_self]

/-- A cache other than the one that is written to stays as it is. The two
may differ in kind. -/
theorem cache_remember_of_ne (store : Store α) {k k' : Kind} {slot : Slot k} {other : Slot k'}
    (hne : (⟨k', other⟩ : Sigma Slot) ≠ ⟨k, slot⟩) (key : Key α) (kept : Kept α k) :
    (store.remember slot key kept).cache other = store.cache other := by
  by_cases hkind : k' = k
  · subst hkind
    have hslot : other ≠ slot := fun h => hne (by rw [h])
    exact cache_setCache_of_ne store hslot _
  · -- Results of another kind are in another table.
    cases k <;> cases k' <;> first | exact absurd rfl hkind | rfl

/-- What a cache holds after a result was stored is that result, or was
held before. -/
theorem held?_of_remember {store : Store α} {k : Kind} {slot : Slot k} {key other : Key α}
    {kept found : Kept α k} (h : (store.remember slot key kept).held? slot other = some found) :
    (other = key ∧ found = kept) ∨ store.held? slot other = some found := by
  rw [held?, remember, cache_setCache_self] at h
  exact Cache.get?_of_insert h

/-- Every result in the store satisfies a property of its slot, its key
and itself. -/
def All (property : ⦃k : Kind⦄ → Slot k → Key α → Kept α k → Prop) (store : Store α) : Prop :=
  ∀ ⦃k : Kind⦄ (slot : Slot k) (key : Key α) (kept : Kept α k),
    store.held? slot key = some kept → property slot key kept

/-- Nothing is stored, so every property holds. -/
theorem all_empty (property : ⦃k : Kind⦄ → Slot k → Key α → Kept α k → Prop) :
    ({} : Store α).All property := by
  intro k slot key kept h
  rw [held?_empty] at h
  cases h

/-- What all results satisfy implies what follows from it. -/
theorem All.mono {property property' : ⦃k : Kind⦄ → Slot k → Key α → Kept α k → Prop}
    {store : Store α} (h : store.All property)
    (himp : ∀ {k : Kind} {slot : Slot k} {key : Key α} {kept : Kept α k},
      property slot key kept → property' slot key kept) : store.All property' :=
  fun _ slot key kept hheld => himp (h slot key kept hheld)

/-- A result that satisfies the property may be added. -/
theorem All.remember {property : ⦃k : Kind⦄ → Slot k → Key α → Kept α k → Prop} {store : Store α}
    (h : store.All property) {k : Kind} {slot : Slot k} {key : Key α} {kept : Kept α k}
    (hkept : property slot key kept) : (store.remember slot key kept).All property := by
  intro k' other otherKey found hfound
  -- Only the cache that was written to has changed, and by one result.
  by_cases hne : (⟨k', other⟩ : Sigma Slot) = ⟨k, slot⟩
  · cases hne
    rcases held?_of_remember hfound with ⟨rfl, rfl⟩ | hold
    · exact hkept
    · exact h slot otherKey found hold
  · rw [held?, cache_remember_of_ne store hne] at hfound
    exact h other otherKey found hfound

end Store

namespace Memory

/-- The memory with a result added to the cache of a slot. -/
def remember (memory : Memory α) {k : Kind} (slot : Slot k) (key : Key α) (kept : Kept α k) :
    Memory α :=
  { memory with store := memory.store.remember slot key kept }

/-- A value in the storage that the supply gives out next. -/
def placed {β : Type} (memory : Memory α) (value : β) : Shared β :=
  ⟨memory.supply.next, value⟩

/-- The memory after an address was drawn. -/
def drawn (memory : Memory α) : Memory α :=
  { memory with supply := ⟨memory.supply.next + 1⟩ }

/-- How programs and quantities are answered: the memory before, the
result, and the memory afterwards. -/
abbrev Answers (α : Type) : Type :=
  ⦃k : Kind⦄ → Quantity α k → Memory α → Checked α (Kept α k) → Memory α → Prop

/-- The steps of a program whose requests are answered by `answers`. -/
inductive Executes (answers : Answers α) {bound : Nat} {β : Type} :
    Program α bound β → Memory α → Checked α β → Memory α → Prop where
  | done {value : β} {m : Memory α} : Executes answers (.done value) m (.ok value) m
  | fail {error : Error α} {m : Memory α} : Executes answers (.fail error) m (.error error) m
  | report {event : Event α} {next : Program α bound β} {m m' : Memory α} {r : Checked α β}
      (h : Executes answers next (m.record event) r m') :
      Executes answers (.report event next) m r m'
  | ask {k : Kind} {part : Quantity α k} {lower : part.rank < bound}
      {next : Carrier α k → Program α bound β} {m m₁ m' : Memory α} {kept : Kept α k}
      {r : Checked α β} (hpart : answers part m (.ok kept) m₁)
      (h : Executes answers (next kept.value) m₁ r m') :
      Executes answers (.ask part lower next) m r m'
  | refused {k : Kind} {part : Quantity α k} {lower : part.rank < bound}
      {next : Carrier α k → Program α bound β} {m m' : Memory α} {error : Error α}
      (hpart : answers part m (.error error) m') :
      Executes answers (.ask part lower next) m (.error error) m'

/-- No cache that is consulted holds a result for the request. -/
structure Missing (setting : Setting α) {k : Kind} (quantity : Quantity α k) (key : Key α)
    (store : Store α) : Prop where
  key_eq : setting.key quantity = .ok key
  own : store.held? quantity.slot key = none
  counterpart : store.heldByCounterpart? quantity.slot key = none

/-- The five ways in which a request is answered. -/
inductive Answered (setting : Setting α) (answers : Answers α) {k : Kind}
    (quantity : Quantity α k) (m : Memory α) : Checked α (Kept α k) → Memory α → Prop where
  /-- The request cannot be met and leaves no trace. -/
  | refused {error : Error α} (hkey : setting.key quantity = .error error) :
      Answered setting answers quantity m (.error error) m
  /-- The cache of the quantity holds the result. -/
  | held {key : Key α} {kept : Kept α k} (hkey : setting.key quantity = .ok key)
      (hown : m.store.held? quantity.slot key = some kept) :
      Answered setting answers quantity m (.ok kept) m
  /-- Only the cache of the other point holds the result, which is
  copied. -/
  | copied {key : Key α} {kept : Kept α k} (hkey : setting.key quantity = .ok key)
      (hown : m.store.held? quantity.slot key = none)
      (hother : m.store.heldByCounterpart? quantity.slot key = some kept) :
      Answered setting answers quantity m (.ok kept)
        ((m.record (.missed quantity.slot.name key)).remember quantity.slot key kept)
  /-- The formula fails. -/
  | failed {key : Key α} {error : Error α} {m' : Memory α}
      (hmissing : Missing setting quantity key m.store)
      (hformula : Executes answers (quantity.formula setting)
        (m.record (.missed quantity.slot.name key)) (.error error) m') :
      Answered setting answers quantity m (.error error) m'
  /-- The formula gives a value, which is placed and stored. -/
  | computed {key : Key α} {value : Carrier α k} {m' : Memory α}
      (hmissing : Missing setting quantity key m.store)
      (hformula : Executes answers (quantity.formula setting)
        (m.record (.missed quantity.slot.name key)) (.ok value) m') :
      Answered setting answers quantity m (.ok (m'.placed value))
        (m'.drawn.remember quantity.slot key (m'.placed value))

/-! ### The evaluation runs this way -/

omit [Scalar α] in
/-- One computation after another: the second starts in the memory that
the first leaves, unless the first failed. -/
theorem run_bind {β γ : Type} (x : Recall α β) (f : β → Recall α γ) (m : Memory α) :
    (x >>= f).run m = match x.run m with
      | (.ok value, m') => (f value).run m'
      | (.error error, m') => (.error error, m') := by
  change ExceptT.bindCont f (x.run m).1 (x.run m).2 = _
  rcases x.run m with ⟨error | value, m'⟩ <;> rfl

omit [Scalar α] in
/-- A function is applied to the result, and the memory is that of the
computation. -/
theorem run_map {β γ : Type} (f : β → γ) (x : Recall α β) (m : Memory α) :
    (f <$> x).run m = ((x.run m).1.map f, (x.run m).2) := by
  rw [← bind_pure_comp, run_bind]
  rcases x.run m with ⟨error | value, m'⟩ <;> rfl

omit [Scalar α] in
/-- A check does not touch the memory. -/
theorem lift_run {β : Type} (checked : Checked α β) (m : Memory α) :
    (liftM checked : Recall α β).run m = (checked, m) := by
  cases checked <;> rfl

omit [Scalar α] in
/-- Executing a program takes the steps of `Executes`, provided that its
requests are answered by `answers`. -/
theorem executes_run {answers : Answers α} {bound : Nat} {β : Type}
    (answer : {k : Kind} → (part : Quantity α k) → part.rank < bound → Recall α (Kept α k))
    (hanswer : ∀ {k : Kind} (part : Quantity α k) (lower : part.rank < bound) (m : Memory α),
      answers part m ((answer part lower).run m).1 ((answer part lower).run m).2)
    (p : Program α bound β) (m : Memory α) :
    let execution := (p.run (m := Recall α) (fun event => modify (·.record event))
      fun part lower => Shared.value <$> answer part lower).run m
    Executes answers p m execution.1 execution.2 := by
  -- On the program. Each request moves the memory, and the rest starts from there.
  induction p generalizing m with
  | done value => exact .done
  | fail error => exact .fail
  | report event next ih => exact .report (ih (m.record event))
  | ask part lower next ih =>
      have hpart := hanswer part lower m
      simp only [Program.run, run_bind, run_map]
      rcases hrun : (answer part lower).run m with ⟨error | kept, m₁⟩
      · rw [hrun] at hpart
        exact .refused hpart
      · rw [hrun] at hpart
        exact .ask hpart (ih kept.value m₁)

/-- To look into the cache of the other point changes nothing. -/
theorem fromCounterpart?_run {k : Kind} (slot : Slot k) (key : Key α) (m : Memory α) :
    (fromCounterpart? slot key).run m = (.ok (m.store.heldByCounterpart? slot key), m) := by
  unfold fromCounterpart? Store.heldByCounterpart?
  cases slot.counterpart? <;> rfl

/-- Fetching consults both caches before it computes. -/
theorem fetch_run {k : Kind} (slot : Slot k) (key : Key α) (compute : Recall α (Carrier α k))
    (m : Memory α) :
    (fetch slot key compute).run m = match m.store.held? slot key with
      | some kept => (.ok kept, m)
      | none => match m.store.heldByCounterpart? slot key with
        | some kept => (.ok kept, (m.record (.missed slot.name key)).remember slot key kept)
        | none => match compute.run (m.record (.missed slot.name key)) with
          | (.error error, m') => (.error error, m')
          | (.ok value, m') =>
            (.ok (m'.placed value), m'.drawn.remember slot key (m'.placed value)) := by
  have hread : ((access slot).read : Recall α _).run m = (.ok (m.store.cache slot), m) := rfl
  have hmissed : ((access slot).missed key : Recall α _).run m
      = (.ok (), m.record (.missed slot.name key)) := rfl
  simp only [fetch, Cache.Access.getOrCompute, run_bind, hread]
  rw [Store.held?]
  -- The cache of the slot first, then that of the other point, then the computation.
  cases (m.store.cache slot).get? key with
  | some kept => rfl
  | none =>
      simp only [run_bind, hmissed, fromCounterpart?_run]
      -- Reporting the miss has not changed the store.
      have hsame : (m.record (.missed slot.name key)).store = m.store := rfl
      rw [hsame]
      cases m.store.heldByCounterpart? slot key with
      | some kept => rfl
      | none =>
          simp only [run_bind]
          rcases compute.run (m.record (.missed slot.name key)) with ⟨error | value, m'⟩ <;> rfl

/-- One step of an evaluation is one of the five ways of `Answered`. -/
theorem answered_fetch {setting : Setting α} {answers : Answers α} {k : Kind}
    {quantity : Quantity α k} {key : Key α} {compute : Recall α (Carrier α k)} {m : Memory α}
    (hkey : setting.key quantity = .ok key)
    (hcompute : ∀ m, Executes answers (quantity.formula setting) m (compute.run m).1
      (compute.run m).2) :
    Answered setting answers quantity m ((fetch quantity.slot key compute).run m).1
      ((fetch quantity.slot key compute).run m).2 := by
  rw [fetch_run]
  -- Where a result is found: in the cache itself, in that of the other point, or nowhere.
  rcases hown : m.store.held? quantity.slot key with _ | kept
  · rcases hother : m.store.heldByCounterpart? quantity.slot key with _ | kept
    · have hformula := hcompute (m.record (.missed quantity.slot.name key))
      rcases hrun : compute.run (m.record (.missed quantity.slot.name key))
        with ⟨error | value, m'⟩
      · rw [hrun] at hformula
        exact .failed ⟨hkey, hown, hother⟩ hformula
      · rw [hrun] at hformula
        exact .computed ⟨hkey, hown, hother⟩ hformula
    · exact .copied hkey hown hother
  · exact .held hkey hown

/-- What a step of an evaluation preserves, given that the parts of its
formula do, holds of every evaluation. -/
theorem evaluate_rule (setting : Setting α) {motive : Answers α}
    (step : ∀ {k : Kind} (quantity : Quantity α k) (m : Memory α) (r : Checked α (Kept α k))
      (m' : Memory α), Answered setting motive quantity m r m' → motive quantity m r m')
    {k : Kind} (quantity : Quantity α k) (m : Memory α) :
    motive quantity m ((evaluate setting quantity).run m).1
      ((evaluate setting quantity).run m).2 := by
  -- Induction on the bound, with the quantity and the memory free.
  suffices hbelow : ∀ (bound : Nat) {k : Kind} (quantity : Quantity α k)
      (lower : quantity.rank < bound) (m : Memory α),
      motive quantity m ((evaluateBelow setting bound quantity lower).run m).1
        ((evaluateBelow setting bound quantity lower).run m).2 from
    hbelow _ quantity _ m
  intro bound
  induction bound with
  | zero => exact fun _ lower => absurd lower (Nat.not_lt_zero _)
  | succ bound ih =>
      intro k quantity lower m
      -- The parts of the formula are below the smaller bound, where `ih` applies.
      apply step
      simp only [evaluateBelow, run_bind, lift_run]
      rcases hkey : setting.key quantity with error | key
      · exact .refused hkey
      · exact answered_fetch hkey fun m =>
          executes_run _ (fun part smaller m => ih part _ m) (quantity.formula setting) m

/-! ### Executions of their own -/

/-- Executes a program in the memory of an engine. -/
def execute (setting : Setting α) {bound : Nat} {β : Type} (p : Program α bound β) : Recall α β :=
  p.run (fun event => modify (·.record event)) fun part _ => Shared.value <$> evaluate setting part

/-- Any bound above the rank gives the same evaluation. -/
theorem evaluateBelow_irrel (setting : Setting α) (b₁ : Nat) :
    ∀ (b₂ : Nat) {k : Kind} (quantity : Quantity α k) (l₁ : quantity.rank < b₁)
      (l₂ : quantity.rank < b₂),
      evaluateBelow setting b₁ quantity l₁ = evaluateBelow setting b₂ quantity l₂ := by
  -- Induction on one bound, with the other one and the quantity free.
  induction b₁ with
  | zero => intro _ _ _ l₁; exact absurd l₁ (Nat.not_lt_zero _)
  | succ b₁ ih =>
      intro b₂ k quantity l₁ l₂
      cases b₂ with
      | zero => exact absurd l₂ (Nat.not_lt_zero _)
      | succ b₂ =>
          simp only [evaluateBelow]
          congr
          funext _
          congr
          funext k part smaller
          rw [ih b₂ part]

/-- An evaluation fetches what the execution of the formula gives. -/
theorem evaluate_eq (setting : Setting α) {k : Kind} (quantity : Quantity α k) :
    evaluate setting quantity
      = (liftM (setting.key quantity) : Recall α _) >>= fun key =>
          fetch quantity.slot key (execute setting (quantity.formula setting)) := by
  unfold execute
  change evaluateBelow setting (quantity.rank + 1) quantity _ = _
  simp only [evaluateBelow]
  congr
  funext _
  congr
  funext k part smaller
  rw [evaluate, evaluateBelow_irrel setting _ _ part]

/-- What a step of an evaluation preserves is preserved by the requests of
a program that is executed. -/
theorem executes_execute (setting : Setting α) {motive : Answers α}
    (step : ∀ {k : Kind} (quantity : Quantity α k) (m : Memory α) (r : Checked α (Kept α k))
      (m' : Memory α), Answered setting motive quantity m r m' → motive quantity m r m')
    {bound : Nat} {β : Type} (p : Program α bound β) (m : Memory α) :
    Executes motive p m ((execute setting p).run m).1 ((execute setting p).run m).2 :=
  executes_run _ (fun part _ m => evaluate_rule setting step part m) p m

omit [Scalar α] in
/-- A chain that begins with a request and succeeds was answered. -/
theorem Executes.ask_inv {answers : Answers α} {bound : Nat} {β : Type} {k : Kind}
    {part : Quantity α k} {lower : part.rank < bound} {next : Carrier α k → Program α bound β}
    {m m' : Memory α} {value : β}
    (h : Executes answers (Program.value part lower >>= next) m (.ok value) m') :
    ∃ kept m₁, answers part m (.ok kept) m₁
      ∧ Executes answers (next kept.value) m₁ (.ok value) m' := by
  change Executes answers (.ask part lower next) m (.ok value) m' at h
  cases h with
  | ask hpart hnext => exact ⟨_, _, hpart, hnext⟩

omit [Scalar α] in
/-- A program returns what its bounds allow. -/
theorem Executes.returns {answers : Answers α} {bound : Nat} {β : Type} {p : Program α bound β}
    {m m' : Memory α} {value : β} {asks : {k : Kind} → Quantity α k → Prop}
    {reports : Event α → Prop} {returns : β → Prop} (h : Executes answers p m (.ok value) m')
    (hp : p.Within asks reports returns) : returns value := by
  -- The induction needs the outcome as a variable.
  generalize hr : (Except.ok value : Checked α β) = r at h
  induction h with
  | done =>
      cases hr
      exact hp
  | fail => cases hr
  | report _ ih => exact ih hp.2 hr
  | ask _ _ ih => exact ih (hp.2 _) hr
  | refused => cases hr

omit [Scalar α] in
/-- Weaker answers give a weaker account of an execution. -/
theorem Executes.mono {answers answers' : Answers α} {bound : Nat} {β : Type}
    {p : Program α bound β} {m m' : Memory α} {r : Checked α β} (h : Executes answers p m r m')
    (himp : ∀ {k : Kind} {part : Quantity α k} {m : Memory α} {r : Checked α (Kept α k)}
      {m' : Memory α}, answers part m r m' → answers' part m r m') :
    Executes answers' p m r m' := by
  induction h with
  | done => exact .done
  | fail => exact .fail
  | report _ ih => exact .report ih
  | ask hpart _ ih => exact .ask (himp hpart) ih
  | refused hpart => exact .refused (himp hpart)

/-- Weaker answers to the parts give a weaker account of the answer. -/
theorem Answered.mono {setting : Setting α} {answers answers' : Answers α} {k : Kind}
    {quantity : Quantity α k} {m m' : Memory α} {r : Checked α (Kept α k)}
    (h : Answered setting answers quantity m r m')
    (himp : ∀ {k : Kind} {part : Quantity α k} {m : Memory α} {r : Checked α (Kept α k)}
      {m' : Memory α}, answers part m r m' → answers' part m r m') :
    Answered setting answers' quantity m r m' := by
  cases h with
  | refused hkey => exact .refused hkey
  | held hkey hown => exact .held hkey hown
  | copied hkey hown hother => exact .copied hkey hown hother
  | failed hmissing hformula => exact .failed hmissing (hformula.mono himp)
  | computed hmissing hformula => exact .computed hmissing (hformula.mono himp)

/-! ### Relations between the memory before and after -/

section
variable {R : Memory α → Memory α → Prop} (refl : ∀ m, R m m)
  (trans : ∀ {m₁ m₂ m₃}, R m₁ m₂ → R m₂ m₃ → R m₁ m₃)
  (record : ∀ m event, R m (m.record event))
include refl trans record

omit [Scalar α] in
/-- A relation that holds of every answer holds of an execution. -/
theorem Executes.relates {answers : Answers α} {bound : Nat} {β : Type} {p : Program α bound β}
    {m m' : Memory α} {r : Checked α β} (h : Executes answers p m r m')
    (hanswers : ∀ {k : Kind} {part : Quantity α k} {m : Memory α} {r : Checked α (Kept α k)}
      {m' : Memory α}, answers part m r m' → R m m') : R m m' := by
  induction h with
  | done => exact refl _
  | fail => exact refl _
  | report _ ih => exact trans (record _ _) ih
  | ask hpart _ ih => exact trans (hanswers hpart) ih
  | refused hpart => exact hanswers hpart

/-- A relation that holds of every single step holds of an evaluation. -/
theorem evaluate_relates (drawn : ∀ m : Memory α, R m m.drawn)
    (remember : ∀ (m : Memory α) {k : Kind} (slot : Slot k) (key : Key α) (kept : Kept α k),
      R m (m.remember slot key kept))
    (setting : Setting α) {k : Kind} (quantity : Quantity α k) (m : Memory α) :
    R m ((evaluate setting quantity).run m).2 := by
  -- Every outcome is a chain of steps that the relation allows.
  refine evaluate_rule setting (motive := fun _ _ m _ m' => R m m') ?_ quantity m
  intro k quantity m r m' h
  cases h with
  | refused => exact refl m
  | held => exact refl m
  | copied => exact trans (record _ _) (remember _ _ _ _)
  | failed _ hformula => exact trans (record _ _) (hformula.relates refl trans record id)
  | computed _ hformula =>
      exact trans (record _ _) (trans (hformula.relates refl trans record id)
        (trans (drawn _) (remember _ _ _ _)))

end

omit [Scalar α] in
/-- A property of the store that every answer keeps is kept by an
execution. -/
theorem Executes.keeps {P : Store α → Prop} {answers : Answers α} {bound : Nat} {β : Type}
    {p : Program α bound β} {m m' : Memory α} {r : Checked α β} (h : Executes answers p m r m')
    (hanswers : ∀ {k : Kind} {part : Quantity α k} {m : Memory α} {r : Checked α (Kept α k)}
      {m' : Memory α}, answers part m r m' → P m.store → P m'.store) :
    P m.store → P m'.store :=
  h.relates (R := fun m m' => P m.store → P m'.store) (fun _ => id)
    (fun h₁ h₂ hstore => h₂ (h₁ hstore)) (fun _ _ => id) hanswers

/-- A request whose result is held by its cache. -/
theorem evaluate_of_held {setting : Setting α} {k : Kind} {quantity : Quantity α k} {key : Key α}
    {kept : Kept α k} {m : Memory α} (hkey : setting.key quantity = .ok key)
    (hown : m.store.held? quantity.slot key = some kept) :
    (evaluate setting quantity).run m = (.ok kept, m) := by
  rw [evaluate_eq, run_bind, lift_run, hkey]
  change (fetch quantity.slot key _).run m = _
  rw [fetch_run, hown]

/-- A request whose result is held by the cache of the other point. -/
theorem evaluate_of_copied {setting : Setting α} {k : Kind} {quantity : Quantity α k}
    {key : Key α} {kept : Kept α k} {m : Memory α} (hkey : setting.key quantity = .ok key)
    (hown : m.store.held? quantity.slot key = none)
    (hother : m.store.heldByCounterpart? quantity.slot key = some kept) :
    (evaluate setting quantity).run m
      = (.ok kept,
        (m.record (.missed quantity.slot.name key)).remember quantity.slot key kept) := by
  rw [evaluate_eq, run_bind, lift_run, hkey]
  change (fetch quantity.slot key _).run m = _
  rw [fetch_run, hown, hother]

/-- An evaluation moves the supply forward. -/
theorem evaluate_forward (setting : Setting α) {k : Kind} (quantity : Quantity α k)
    (m : Memory α) : m.supply.next ≤ ((evaluate setting quantity).run m).2.supply.next :=
  evaluate_relates (R := fun m m' => m.supply.next ≤ m'.supply.next)
    (fun _ => Nat.le_refl _) Nat.le_trans (fun _ _ => Nat.le_refl _) (fun _ => Nat.le_succ _)
    (fun _ _ _ _ _ => Nat.le_refl _) setting quantity m

end Memory

end InteriorPoint
