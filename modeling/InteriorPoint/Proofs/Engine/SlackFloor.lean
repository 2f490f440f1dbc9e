import InteriorPoint.Proofs.Quantity.PositiveArguments
import InteriorPoint.Proofs.Quantity.Value
import InteriorPoint.Proofs.Scalar.Unpacked
import InteriorPoint.Proofs.Session
import InteriorPoint.Proofs.Slack

/-!
# `InteriorPoint.Proofs.Engine.SlackFloor`: slacks are positive

No slack that leaves an engine lies below `Slack.least` of the current
barrier parameter, which is positive. This holds wherever the slack
comes from, and whatever the entries of the points, the bounds and the
multipliers are, undefined and infinite ones included.

A slack vector is correct when it is computed, because an entry that is
not at least `least mu` is replaced by a maximum with `least mu`
(`Slack.least_le_of_safeguard`). It stays correct while it is stored:
the key carries the barrier parameter, so a vector that was computed for
another one is not found (`OnFloor`). Where that is the other zero the
least slack is the same (`Slack.least_eq_of_alike`). Copying from the
other point keeps the key.

What is computed from slacks may rely on it: the barrier term takes
logarithms of positive numbers, and the barrier gradient and the
primal-dual scaling divide by positive numbers. So they are the same in
any arithmetic that differs only elsewhere (`Scalar.offPositive`).
-/

set_option autoImplicit false

namespace InteriorPoint

variable {α : Type} [Scalar α] [LawfulComparison α]

/-! ### The formula and the store -/

/-- The formula of a slack returns entries that are at least `least mu`. -/
theorem Quantity.slack_within (setting : Setting α) (point : Point) (family : Family) :
    ((Quantity.slack point family).formula setting).Within (fun _ => True) (fun _ => True)
      fun entries => ∀ entry ∈ entries, Slack.least setting.mu ≤ entry := by
  obtain ⟨block, side⟩ := family
  -- On either side the correction comes last, and a report follows it.
  cases side <;> simp only [Quantity.formula, Program.within_bind, Program.within_lift]
  all_goals
    rintro iterate - selected - distances - ⟨corrected, count⟩ hsafeguard
    have hleast := Slack.least_le_of_safeguard hsafeguard
    exact (Program.within_ite _ _ _).2 ⟨fun _ => ⟨trivial, hleast⟩, fun _ => hleast⟩

/-- A slack stored under the key of a barrier parameter is at least
`least` of it. Nothing is said about other results. -/
def OnFloor : ⦃k : Kind⦄ → Slot k → Key α → Kept α k → Prop
  | _, .slack _ _, key, kept =>
    ∀ mu, key.parts = [.number (Scalar.unsigned mu)] →
      ∀ entry ∈ kept.value, Slack.least mu ≤ entry
  | _, _, _, _ => True

omit [LawfulComparison α] in
/-- The caches of both points are on the floor in the same sense. -/
theorem onFloor_of_counterpart {k : Kind} {slot other : Slot k}
    (h : slot.counterpart? = some other) {key : Key α} {kept : Kept α k}
    (hfloor : OnFloor other key kept) : OnFloor slot key kept := by
  cases slot <;> cases h <;> exact hfloor

omit [LawfulComparison α] in
/-- The key of a slack carries the barrier parameter and no other number. -/
theorem parts_of_slack_key {setting : Setting α} {point : Point} {family : Family} {key : Key α}
    (hkey : setting.key (.slack point family) = .ok key) :
    key.parts = [.number (Scalar.unsigned setting.mu)] := by
  simp only [Setting.key, Checked.bind_eq_ok, Checked.pure_eq_ok] at hkey
  obtain ⟨iterate, -, rfl⟩ := hkey
  rfl

variable [LawfulZero α]

/-- What a formula returns may be stored under the key of its quantity. -/
theorem onFloor_of_executes {answers : Memory.Answers α} {setting : Setting α} {k : Kind}
    {quantity : Quantity α k} {key : Key α} (hkey : setting.key quantity = .ok key)
    {m m' : Memory α} {value : Carrier α k}
    (h : Memory.Executes answers (quantity.formula setting) m (.ok value) m') :
    OnFloor quantity.slot key (m'.placed value) := by
  cases quantity with
  | slack point family =>
      -- The number in the key is the `mu` that the formula read, or the other zero.
      intro mu hparts
      rw [parts_of_slack_key hkey] at hparts
      injection hparts with hnumber
      injection hnumber with hunsigned
      rw [← Slack.least_eq_of_alike (Scalar.unsigned_eq_iff.1 hunsigned)]
      exact h.returns (Quantity.slack_within setting point family)
  | _ => trivial

namespace Memory

/-- What is asked of an answer: it keeps the stored slacks on the floor,
and it is on the floor itself. -/
def KeepsFloor (setting : Setting α) : Answers α :=
  fun _ quantity m r m' => m.store.All OnFloor → m'.store.All OnFloor
    ∧ ∀ kept, r = .ok kept →
      ∃ key, setting.key quantity = .ok key ∧ OnFloor quantity.slot key kept

/-- One step of an evaluation keeps the stored slacks on the floor, given
that its parts do. -/
theorem keepsFloor_of_answered {setting : Setting α} {k : Kind} {quantity : Quantity α k}
    {m m' : Memory α} {r : Checked α (Kept α k)}
    (h : Answered setting (KeepsFloor setting) quantity m r m') :
    KeepsFloor setting quantity m r m' := by
  intro hfloor
  cases h with
  | refused hkey => exact ⟨hfloor, fun _ hr => nomatch hr⟩
  | held hkey hown =>
      refine ⟨hfloor, ?_⟩
      rintro _ ⟨⟩
      exact ⟨_, hkey, hfloor _ _ _ hown⟩
  -- The cache of the other point keeps the floor as well.
  | copied hkey hown hother =>
      obtain ⟨other, hslot, hheld⟩ := Option.bind_eq_some_iff.1 hother
      have hkept := onFloor_of_counterpart hslot (hfloor _ _ _ hheld)
      refine ⟨hfloor.remember hkept, ?_⟩
      rintro _ ⟨⟩
      exact ⟨_, hkey, hkept⟩
  | failed hmissing hformula =>
      exact ⟨hformula.keeps (fun hpart hstore => (hpart hstore).1) hfloor, fun _ hr => nomatch hr⟩
  -- A slack that is computed has been lifted to the floor.
  | computed hmissing hformula =>
      have hkept := onFloor_of_executes hmissing.key_eq hformula
      have hafter := hformula.keeps (fun hpart hstore => (hpart hstore).1) hfloor
      refine ⟨hafter.remember hkept, ?_⟩
      rintro _ ⟨⟩
      exact ⟨_, hmissing.key_eq, hkept⟩

/-- Every evaluation keeps the stored slacks on the floor. -/
theorem evaluate_keepsFloor (setting : Setting α) {k : Kind} (quantity : Quantity α k)
    (m : Memory α) :
    KeepsFloor setting quantity m ((evaluate setting quantity).run m).1
      ((evaluate setting quantity).run m).2 :=
  evaluate_rule setting (fun _ _ _ _ => keepsFloor_of_answered) quantity m

omit [LawfulComparison α] [LawfulZero α] in
/-- A slack answered in a memory on the floor is at least `least mu`. -/
theorem KeepsFloor.least_le {setting : Setting α} {point : Point} {family : Family}
    {m m' : Memory α} {kept : Kept α .vector}
    (h : KeepsFloor setting (.slack point family) m (.ok kept) m')
    (hfloor : m.store.All OnFloor) : ∀ entry ∈ kept.value, Slack.least setting.mu ≤ entry := by
  obtain ⟨key, hkey, hkept⟩ := (h hfloor).2 kept rfl
  exact hkept setting.mu (parts_of_slack_key hkey)

omit [LawfulComparison α] [LawfulZero α] in
/-- All slacks that are collected are at least `least mu`. -/
theorem Executes.least_le_slacks {setting : Setting α} {point : Point} {bound : Nat}
    {lower : 0 < bound} {m m' : Memory α} {slacks : PerFamily (List α)}
    (h : Executes (KeepsFloor setting) (Quantity.slacks point lower) m (.ok slacks) m')
    (hfloor : m.store.All OnFloor) (family : Family) :
    ∀ entry ∈ slacks.get family, Slack.least setting.mu ≤ entry := by
  unfold Quantity.slacks PerFamily.ofFnM at h
  obtain ⟨xLower, m₁, h₁, h⟩ := h.ask_inv
  obtain ⟨xUpper, m₂, h₂, h⟩ := h.ask_inv
  obtain ⟨sLower, m₃, h₃, h⟩ := h.ask_inv
  obtain ⟨sUpper, m₄, h₄, h⟩ := h.ask_inv
  -- Each slack is answered in the memory that the one before left.
  have f₁ := (h₁ hfloor).1
  have f₂ := (h₂ f₁).1
  have f₃ := (h₃ f₂).1
  cases h
  rcases family with ⟨_ | _, _ | _⟩
  · exact h₁.least_le hfloor
  · exact h₂.least_le f₁
  · exact h₃.least_le f₂
  · exact h₄.least_le f₃

/-- Executing a program keeps the stored slacks on the floor. -/
theorem execute_floor (setting : Setting α) {bound : Nat} {β : Type} (p : Program α bound β)
    {m : Memory α} (hfloor : m.store.All OnFloor) :
    ((execute setting p).run m).2.store.All OnFloor :=
  (executes_execute setting (fun _ _ _ _ => keepsFloor_of_answered) p m).keeps
    (fun hpart hstore => (hpart hstore).1) hfloor

end Memory

/-! ### Engines -/

namespace Engine

/-- An operation keeps the stored slacks on the floor. -/
theorem Performed.floor {engine engine' : Engine α} {supply supply' : Supply} {action : Action α}
    {events : List (Event α)} (h : Performed engine supply action engine' events supply')
    (hfloor : engine.store.All OnFloor) : engine'.store.All OnFloor := by
  cases h with
  | refused => exact hfloor
  | @answered _ _ quantity =>
      exact (Memory.evaluate_rule engine.setting (fun _ _ _ _ => Memory.keepsFloor_of_answered)
        quantity (engine.memory supply) hfloor).1
  | changed => exact hfloor
  -- Other options, other functions and a reset empty the caches.
  | options => exact Store.all_empty _
  | callbacks => exact hfloor
  | cleared => exact Store.all_empty _
  | reset => exact hfloor

/-- The stored slacks of an engine are on the floor, by induction on the
operations that led to it. -/
theorem Reachable.floor {engine : Engine α} (h : engine.Reachable) :
    engine.store.All OnFloor := by
  induction h with
  | new _ hnew =>
      obtain ⟨-, -, rfl⟩ := Engine.new_eq_ok.1 hnew
      exact Store.all_empty _
  | perform _ action supply ih => exact (performed_perform _ action supply).floor ih

/-- Every slack that an evaluation answers in a memory on the floor is
positive, and the memory stays on the floor. -/
theorem positive_of_evaluate {setting : Setting α} {k : Kind} (part : Quantity α k)
    {m m' : Memory α} {kept : Kept α k} (hfloor : m.store.All OnFloor)
    (hrun : (Memory.evaluate setting part).run m = (.ok kept, m')) :
    Positive part kept.value ∧ m'.store.All OnFloor := by
  have hkeeps := Memory.evaluate_keepsFloor setting part m
  rw [hrun] at hkeeps
  refine ⟨?_, (hkeeps hfloor).1⟩
  cases part with
  | slack point family =>
      exact fun entry hentry =>
        Scalar.lt_of_lt_of_le (Slack.least_pos _) (hkeeps.least_le hfloor entry hentry)
  | _ => trivial

/-- Slacks are positive wherever they are read. Every slack vector that an
engine hands out, at either point and for every family, is at least
`Slack.least` of the current barrier parameter, and that is positive.

The same holds of the slacks that formulas read. Whatever program was
executed `before`, the vectors that `Quantity.slacks` collects for the
barrier term and the single slacks have positive entries. So every
argument of a logarithm in `barrierTerm` and every divisor in
`addBarrierGradient` and in the primal-dual scaling is positive: with
another logarithm and another division wherever the argument or the
divisor is not positive, all three are what they are. -/
theorem Reachable.slack_pos {engine : Engine α} (h : engine.Reachable) :
    0 < Slack.least engine.setting.mu
      ∧ (∀ point family supply kept,
          (engine.answer (.quantity (.slack point family)) supply).1.result = .ok kept →
            ∀ entry ∈ kept.value, Slack.least engine.setting.mu ≤ entry)
      ∧ ∀ {bound : Nat} {β : Type} (before : Program α bound β) (supply : Supply),
          let m := ((Memory.execute engine.setting before).run (engine.memory supply)).2
          (∀ point slacks,
            ((Memory.execute engine.setting
              (Quantity.slacks point : Program α 1 (PerFamily (List α)))).run m).1 = .ok slacks →
              (∀ family, ∀ entry ∈ slacks.get family, 0 < entry)
                ∧ ∀ log' div', @barrierTerm α (Scalar.offPositive log' div') engine.setting slacks
                  = barrierTerm engine.setting slacks)
            ∧ (∀ point family slack,
              ((Memory.evaluate engine.setting (.slack point family)).run m).1 = .ok slack →
                ∀ entry ∈ slack.value, 0 < entry)
            ∧ ∀ log' div' block,
              (∀ gradient,
                (Memory.execute engine.setting (@Quantity.addBarrierGradient α
                    (Scalar.offPositive log' div') 1 engine.setting block gradient
                    Nat.one_pos)).run m
                  = (Memory.execute engine.setting (Quantity.addBarrierGradient engine.setting block
                    gradient Nat.one_pos)).run m)
              ∧ (Memory.execute engine.setting (@Quantity.formula α
                    (Scalar.offPositive log' div') engine.setting _
                    (.primalDualScaling block))).run m
                  = (Memory.execute engine.setting (Quantity.formula engine.setting
                    (.primalDualScaling block))).run m := by
  have hpos := Slack.least_pos engine.setting.mu
  refine ⟨hpos, ?_, ?_⟩
  · intro point family supply kept hanswer
    rw [answer_of_resolved rfl] at hanswer
    have hrun : ((Memory.evaluate engine.setting (.slack point family)).run
        (engine.memory supply)).1 = .ok kept := hanswer
    have hkeeps := Memory.evaluate_keepsFloor engine.setting (.slack point family)
      (engine.memory supply)
    rw [hrun] at hkeeps
    exact hkeeps.least_le h.floor
  · intro bound β before supply m
    have hfloor : m.store.All OnFloor := Memory.execute_floor engine.setting before h.floor
    refine ⟨?_, ?_, ?_⟩
    · intro point slacks hcollect
      have hexecutes := Memory.executes_execute engine.setting
        (fun _ _ _ _ => Memory.keepsFloor_of_answered)
        (Quantity.slacks point : Program α 1 (PerFamily (List α))) m
      rw [hcollect] at hexecutes
      have hslacks : ∀ family, ∀ entry ∈ slacks.get family, 0 < entry := fun family entry hentry =>
        Scalar.lt_of_lt_of_le hpos (hexecutes.least_le_slacks hfloor family entry hentry)
      exact ⟨hslacks, fun log' div' => barrierTerm_offPositive log' div' engine.setting hslacks⟩
    · intro point family slack hslack
      exact (positive_of_evaluate (.slack point family) hfloor (Prod.ext hslack rfl)).1
    · intro log' div' block
      -- Both formulas go on in the same way after slacks that are positive.
      refine ⟨fun gradient => ?_, ?_⟩
      · exact Memory.run_execute_of_agree positive_of_evaluate
          (Quantity.addBarrierGradient_agree log' div' engine.setting block gradient Nat.one_pos)
          hfloor
      · exact Memory.run_execute_of_agree positive_of_evaluate
          (Quantity.primalDualScaling_agree log' div' engine.setting block) hfloor

set_option maxRecDepth 20000 in
/-- The current point lies on its bound, so its slack is corrected, to the
least one that is let through. -/
theorem Reachable.slack_pos_halfLine :
    (HalfLine.engine.answer (.quantity (.slack .current .xLower)) ⟨33⟩).1.result
        = .ok ⟨33, [Scalar.epsilon]⟩
      ∧ 0 < Slack.least HalfLine.engine.setting.mu
      ∧ Slack.least HalfLine.engine.setting.mu ≤ Scalar.epsilon := by
  have hresult : (HalfLine.engine.answer (.quantity (.slack .current .xLower)) ⟨33⟩).1.result
      = .ok ⟨33, [Scalar.epsilon]⟩ := rfl
  obtain ⟨hpos, hleast, -⟩ := Reachable.slack_pos HalfLine.session.reachable
  exact ⟨hresult, hpos, hleast _ _ _ _ hresult _ List.mem_cons_self⟩

end Engine

end InteriorPoint
