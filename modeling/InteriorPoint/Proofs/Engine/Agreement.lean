import InteriorPoint.Proofs.Engine.Run

/-!
# `InteriorPoint.Proofs.Engine.Agreement`: the caches of the two points agree

A quantity that exists at both points has two caches, and each may
answer for the other. They never hold different results under one key
(`Reachable.agree`).

Two things make this so. A result is computed only if neither cache has
it, and otherwise copied. And computing it does not put it there by
another way: a formula asks for quantities of smaller rank, so the
caches of its own rank are the same before and after it
(`Memory.Executes.frame`).
-/

set_option autoImplicit false

namespace InteriorPoint

variable {α : Type}

/-- The other point of the other one is the point itself. -/
@[simp]
theorem Point.other_other (point : Point) : point.other.other = point := by
  cases point <;> rfl

/-- There are two points. -/
theorem Point.other_ne (point : Point) : point.other ≠ point := by
  cases point <;> simp [Point.other]

namespace Slot

/-- The rank of the quantities that use the cache. -/
def rank : {k : Kind} → Slot k → Nat
  | _, slack _ _ | _, objective _ | _, objectiveGradient | _, constraint _ _ | _, jacobian _
  | _, hessian | _, dualStepLimit => 0
  | _, barrierObjective _ | _, barrierGradient _ | _, inequalityResidual _ | _, jacobianTimes _
  | _, jacobianTransposeTimes _ | _, complementarity _ | _, primalStepLimit
  | _, slackStepLimit | _, primalDualScaling _ | _, meanComplementarity _ => 1
  | _, directionalDerivative | _, constraintViolation _ | _, lagrangianGradient _
  | _, relaxedComplementarity _ | _, primalInfeasibility _ | _, complementarityNorm
  | _, centralityMeasure => 2
  | _, dualInfeasibility => 3
  | _, problemError | _, barrierError | _, meanError | _, meanBarrierError => 4

/-- Caches that answer for each other belong to quantities of one rank. -/
theorem rank_of_counterpart {k : Kind} {slot other : Slot k}
    (h : slot.counterpart? = some other) : other.rank = slot.rank := by
  cases slot <;> cases h <;> rfl

/-- Two caches answer for each other. -/
theorem counterpart_symm {k : Kind} {slot other : Slot k} (h : slot.counterpart? = some other) :
    other.counterpart? = some slot := by
  cases slot <;> cases h <;> simp [counterpart?]

/-- No cache answers for itself. -/
theorem counterpart_ne {k : Kind} {slot other : Slot k} (h : slot.counterpart? = some other) :
    other ≠ slot := by
  cases slot <;> cases h <;> simp [Point.other_ne]

end Slot

/-- The rank of a cache is that of the quantities it serves. -/
theorem Quantity.slot_rank {k : Kind} (q : Quantity α k) : q.slot.rank = q.rank := by
  cases q <;> rfl

variable [Scalar α]

namespace Store

/-- No two caches that answer for each other hold different results under
one key. -/
def Agree (store : Store α) : Prop :=
  ∀ ⦃k : Kind⦄ ⦃slot other : Slot k⦄ ⦃key : Key α⦄ ⦃kept found : Kept α k⦄,
    slot.counterpart? = some other → store.held? slot key = some kept →
      store.held? other key = some found → found = kept

/-- Without results there is nothing to disagree about. -/
theorem agree_empty : ({} : Store α).Agree := by
  intro k slot other key kept found _ hslot
  rw [held?_empty] at hslot
  cases hslot

/-- A result may be added if the other cache holds nothing else under its
key. -/
theorem Agree.remember {store : Store α} (h : store.Agree) {k : Kind} {slot : Slot k} {key : Key α}
    {kept : Kept α k}
    (hother : ∀ {found}, store.heldByCounterpart? slot key = some found → found = kept) :
    (store.remember slot key kept).Agree := by
  have hcounterpart : ∀ {other : Slot k} {found : Kept α k}, slot.counterpart? = some other →
      store.held? other key = some found → found = kept := by
    intro other found hslot hfound
    apply hother
    rw [heldByCounterpart?, hslot]
    exact hfound
  -- A cache other than `slot` holds what it held before.
  have hbefore : ∀ {k' : Kind} {s : Slot k'} {key' : Key α} {found : Kept α k'},
      (⟨k', s⟩ : Sigma Slot) ≠ ⟨k, slot⟩ →
      (store.remember slot key kept).held? s key' = some found →
      store.held? s key' = some found := by
    intro k' s key' found hne hfound
    rwa [held?, cache_remember_of_ne store hne] at hfound
  intro k' slot₁ slot₂ key' kept₁ kept₂ hpair h₁ h₂
  by_cases hfirst : (⟨k', slot₁⟩ : Sigma Slot) = ⟨k, slot⟩
  · -- The result was added to the first cache, so the second is as before.
    cases hfirst
    have hold₂ := hbefore (fun hsame => Slot.counterpart_ne hpair (by cases hsame; rfl)) h₂
    rcases held?_of_remember h₁ with ⟨rfl, rfl⟩ | hold₁
    · exact hcounterpart hpair hold₂
    · exact h hpair hold₁ hold₂
  · have hold₁ := hbefore hfirst h₁
    by_cases hsecond : (⟨k', slot₂⟩ : Sigma Slot) = ⟨k, slot⟩
    · -- Now it was the second one. The two answer for each other.
      cases hsecond
      rcases held?_of_remember h₂ with ⟨rfl, rfl⟩ | hold₂
      · exact (hcounterpart (Slot.counterpart_symm hpair) hold₁).symm
      · exact h hpair hold₁ hold₂
    · exact h hpair hold₁ (hbefore hsecond h₂)

end Store

namespace Memory

/-- Caches of a rank from `bound` on are the same in both memories. -/
def Frame (bound : Nat) (m m' : Memory α) : Prop :=
  ∀ ⦃k : Kind⦄ (slot : Slot k), bound ≤ slot.rank → m'.store.cache slot = m.store.cache slot

namespace Frame

omit [Scalar α] in
/-- A memory has the same caches as itself. -/
theorem refl (bound : Nat) (m : Memory α) : Frame bound m m :=
  fun _ _ _ => rfl

omit [Scalar α] in
/-- What is the same in two steps is the same in both together. -/
theorem trans {bound : Nat} {m m' m'' : Memory α} (h : Frame bound m m')
    (h' : Frame bound m' m'') : Frame bound m m'' :=
  fun _ slot hrank => (h' slot hrank).trans (h slot hrank)

omit [Scalar α] in
/-- If more caches are the same, fewer are. -/
theorem mono {bound bound' : Nat} {m m' : Memory α} (h : Frame bound m m') (hle : bound ≤ bound') :
    Frame bound' m m' :=
  fun _ slot hrank => h slot (Nat.le_trans hle hrank)

/-- Keeping a result touches the cache of its own rank only. -/
theorem remember (m : Memory α) {k : Kind} (q : Quantity α k) (key : Key α) (kept : Kept α k) :
    Frame (q.rank + 1) m (m.remember q.slot key kept) := by
  intro k' slot hrank
  refine Store.cache_remember_of_ne m.store (fun hsame => ?_) key kept
  cases hsame
  rw [q.slot_rank] at hrank
  omega

/-- The same cache holds the same results. -/
theorem held?_eq {bound : Nat} {m m' : Memory α} (h : Frame bound m m') {k : Kind} {slot : Slot k}
    (hrank : bound ≤ slot.rank) (key : Key α) :
    m'.store.held? slot key = m.store.held? slot key := by
  rw [Store.held?, Store.held?, h slot hrank]

end Frame

/-- What is asked of an answer: it leaves the caches of higher rank alone,
the caches of the two points still agree, and the result is held. -/
structure Agrees (setting : Setting α) {k : Kind} (q : Quantity α k) (m : Memory α)
    (r : Checked α (Kept α k)) (m' : Memory α) : Prop where
  frame : Frame (q.rank + 1) m m'
  agree : m.store.Agree → m'.store.Agree
  held : ∀ kept, r = .ok kept →
    ∃ key, setting.key q = .ok key ∧ m'.store.held? q.slot key = some kept

omit [Scalar α] in
/-- A program of a bound reaches caches below this bound only. -/
theorem Executes.frame {answers : Answers α} {bound : Nat} {β : Type} {p : Program α bound β}
    {m m' : Memory α} {r : Checked α β} (h : Executes answers p m r m')
    (hanswers : ∀ {k : Kind} {part : Quantity α k} {m r m'}, answers part m r m' →
      Frame (part.rank + 1) m m') : Frame bound m m' := by
  -- Every part that is asked for has a rank below the bound.
  induction h with
  | done => exact .refl _ _
  | fail => exact .refl _ _
  | report _ ih => exact ih
  | @ask _ _ lower _ _ _ _ _ _ hpart _ ih => exact ((hanswers hpart).mono lower).trans ih
  | @refused _ _ lower _ _ _ _ hpart => exact (hanswers hpart).mono lower

/-- If the answers to the parts of a formula are as they should be, so is
the answer for the quantity. -/
theorem agrees_of_answered {setting : Setting α} {k : Kind} {q : Quantity α k} {m m' : Memory α}
    {r : Checked α (Kept α k)} (h : Answered setting (fun _ => Agrees setting) q m r m') :
    Agrees setting q m r m' := by
  cases h with
  | refused => exact ⟨.refl _ _, id, fun _ hr => nomatch hr⟩
  | held hkey hown =>
      refine ⟨.refl _ _, id, ?_⟩
      rintro _ ⟨⟩
      exact ⟨_, hkey, hown⟩
  -- The copy is what the other cache holds, under the same key.
  | copied hkey _ hother =>
      refine ⟨Frame.remember _ q _ _, fun hagree => hagree.remember fun hfound => ?_, ?_⟩
      · exact Option.some.inj (hfound.symm.trans hother)
      · rintro _ ⟨⟩
        exact ⟨_, hkey, Store.held?_remember_self _ _ _ _⟩
  | failed _ hformula =>
      exact ⟨(hformula.frame Agrees.frame).mono (Nat.le_succ _),
        hformula.keeps Agrees.agree, fun _ hr => nomatch hr⟩
  | @computed key value m' hmissing hformula =>
      have hframe := hformula.frame Agrees.frame
      refine ⟨(hframe.mono (Nat.le_succ _)).trans (Frame.remember _ q _ _), fun hagree => ?_, ?_⟩
      · refine (hformula.keeps Agrees.agree hagree).remember fun {found} hfound => ?_
        -- The formula has not filled the cache of the other point.
        obtain ⟨other, hslot, hheld⟩ := Option.bind_eq_some_iff.1 hfound
        have hrank : other.rank = q.rank := (Slot.rank_of_counterpart hslot).trans q.slot_rank
        have hnone := hmissing.counterpart
        rw [Store.heldByCounterpart?, hslot] at hnone
        rw [hframe.held?_eq (Nat.le_of_eq hrank.symm)] at hheld
        exact nomatch hheld.symm.trans hnone
      · rintro _ ⟨⟩
        exact ⟨key, hmissing.key_eq, Store.held?_remember_self _ _ _ _⟩

/-- All answers are as they should be. -/
theorem evaluate_agrees (setting : Setting α) {k : Kind} (q : Quantity α k) (m : Memory α) :
    Agrees setting q m ((evaluate setting q).run m).1 ((evaluate setting q).run m).2 :=
  evaluate_rule setting (fun _ _ _ _ => agrees_of_answered) q m

end Memory

namespace Engine

/-- Whatever an engine does, its caches keep agreeing. -/
theorem Performed.agree {engine engine' : Engine α} {supply supply' : Supply} {action : Action α}
    {events : List (Event α)} (h : Performed engine supply action engine' events supply')
    (hagree : engine.store.Agree) : engine'.store.Agree := by
  -- Only an answer adds results. The other actions keep the caches or empty them.
  cases h with
  | refused => exact hagree
  | @answered _ _ q =>
      exact (Memory.evaluate_agrees engine.setting q (engine.memory supply)).agree hagree
  | changed => exact hagree
  | options => exact Store.agree_empty
  | callbacks => exact hagree
  | cleared => exact Store.agree_empty
  | reset => exact hagree

/-- The caches of the two points agree in every engine that can come
about. -/
theorem Reachable.agree {engine : Engine α} (h : engine.Reachable) : engine.store.Agree := by
  induction h with
  | new _ hnew =>
      obtain ⟨-, -, rfl⟩ := Engine.new_eq_ok.1 hnew
      exact Store.agree_empty
  | perform _ action supply ih => exact (performed_perform _ action supply).agree ih

end Engine

end InteriorPoint
