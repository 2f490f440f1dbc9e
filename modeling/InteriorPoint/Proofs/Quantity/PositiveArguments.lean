import InteriorPoint.Proofs.Engine.Evaluation

/-!
# `InteriorPoint.Proofs.Quantity.PositiveArguments`: where logarithms and quotients are taken

The barrier term takes logarithms of slacks, and the barrier gradient and
the primal-dual scaling divide by slacks. That a formula does so at
positive arguments only is said by changing the arithmetic elsewhere:
`Scalar.offPositive` has any other logarithm where the argument is not
positive, and any other division where the divisor is not. A formula that
is the same in both arithmetics never leaves the positive numbers.

`Program.Agree` compares the two readings of a formula. They ask for the
same quantities, and go on in the same way after every answer that is as
expected (`Positive`). An execution whose answers are all as expected
cannot tell them apart (`Memory.run_execute_of_agree`).
-/

set_option autoImplicit false

namespace InteriorPoint

variable {α : Type} [Scalar α]

/-! ### Another arithmetic off the positive numbers -/

/-- The arithmetic with `log'` for the logarithm where the argument is not
positive, and with `div'` for the division where the divisor is not. -/
@[reducible]
def Scalar.offPositive (log' : α → α) (div' : α → α → α) : Scalar α :=
  { (inferInstance : Scalar α) with
    log := fun a => if 0 < a then Scalar.log a else log' a
    div := fun a b => if 0 < b then a / b else div' a b }

section
variable (log' : α → α) (div' : α → α → α)

/-- A positive number has the same logarithm. -/
theorem Scalar.log_offPositive {a : α} (ha : 0 < a) :
    (Scalar.offPositive log' div').log a = Scalar.log a :=
  if_pos ha

/-- A quotient by a positive number is the same. -/
theorem Scalar.div_offPositive (a : α) {b : α} (hb : 0 < b) :
    (Scalar.offPositive log' div').div a b = a / b :=
  if_pos hb

/-- A dot product takes no logarithm and no quotient. -/
theorem Linear.dot_offPositive (u v : List α) :
    @Linear.dot α (Scalar.offPositive log' div') u v = Linear.dot u v := by
  -- The recursion has to be laid open for the two arithmetics to be seen in it.
  delta Linear.dot Linear.laneDot Linear.laneSum
  rfl

/-- Neither does adding entries at coordinates. -/
theorem Selection.scatterAdd_offPositive (selection : Selection) (alpha : α) (v target : List α) :
    @Selection.scatterAdd α (Scalar.offPositive log' div') selection alpha v target
      = selection.scatterAdd alpha v target := by
  delta Selection.scatterAdd Selection.addAt
  rfl

/-- Reciprocals of positive entries are the same. -/
theorem Linear.reciprocals_offPositive {v : List α} (hv : ∀ entry ∈ v, 0 < entry) :
    v.map (@HDiv.hDiv α α α (@instHDiv α (Scalar.offPositive log' div').toDiv) 1)
      = v.map (1 / ·) :=
  List.map_congr_left fun entry hentry => Scalar.div_offPositive log' div' 1 (hv entry hentry)

/-- Quotients by positive entries are the same. By induction on the
divisors, with as many dividends as there are left. -/
theorem Linear.entrywiseDiv_offPositive (u : List α) {v : List α} (hv : ∀ entry ∈ v, 0 < entry) :
    @Linear.entrywiseDiv α (Scalar.offPositive log' div') u v = Linear.entrywiseDiv u v := by
  have hquotients : List.zipWith (Scalar.offPositive log' div').div u v
      = List.zipWith (· / ·) u v := by
    -- Entry by entry, since every divisor is positive.
    induction v generalizing u with
    | nil => simp
    | cons b v ih =>
        obtain ⟨hb, hrest⟩ := List.forall_mem_cons.1 hv
        cases u with
        | nil => rfl
        | cons a u =>
            rw [List.zipWith_cons_cons, List.zipWith_cons_cons, ih u hrest,
              Scalar.div_offPositive log' div' a hb]
  change (if u.length = v.length
    then .ok (List.zipWith (Scalar.offPositive log' div').div u v)
    else .error .misaligned : Checked α (List α)) = _
  rw [hquotients]
  rfl

/-- The barrier term of positive slacks is the same. -/
theorem barrierTerm_offPositive (setting : Setting α) {slacks : PerFamily (List α)}
    (hslacks : ∀ family, ∀ entry ∈ slacks.get family, 0 < entry) :
    @barrierTerm α (Scalar.offPositive log' div') setting slacks = barrierTerm setting slacks := by
  have hlogarithms : slacks.toList.map (fun slack =>
        Scalar.sum (slack.map (Scalar.offPositive log' div').log))
      = slacks.toList.map fun slack => Scalar.sum (slack.map Scalar.log) := by
    refine List.map_congr_left fun slack hslack => ?_
    have hpositive : ∀ entry ∈ slack, 0 < entry := by
      simp only [PerFamily.toList, List.mem_cons, List.not_mem_nil, or_false] at hslack
      rcases hslack with rfl | rfl | rfl | rfl
      · exact hslacks .xLower
      · exact hslacks .xUpper
      · exact hslacks .sLower
      · exact hslacks .sUpper
    rw [List.map_congr_left fun entry hentry =>
      Scalar.log_offPositive log' div' (hpositive entry hentry)]
  -- The logarithms are the only place where the two arithmetics differ.
  change (do
    let logarithms := slacks.toList.map fun slack =>
      Scalar.sum (slack.map (Scalar.offPositive log' div').log)
    let barrier := -setting.mu * Scalar.sum logarithms
    if 0 < setting.options.dampingWeight then
      let damped ← Family.all.mapM fun family =>
        @Linear.dot α (Scalar.offPositive log' div') (setting.damping.get family)
          (slacks.get family)
      return barrier + setting.options.dampingWeight * setting.mu * Scalar.sum damped
    else return barrier : Checked α α) = _
  rw [hlogarithms]
  simp only [Linear.dot_offPositive]
  rfl

end

/-! ### Programs that agree as long as answers are as expected -/

namespace Program

variable {bound : Nat} {β : Type}

/-- Two programs that begin with the same requests and go on as one
program after answers that are as expected. -/
inductive Agree (expected : ⦃k : Kind⦄ → Quantity α k → Carrier α k → Prop) :
    Program α bound β → Program α bound β → Prop where
  | refl (p : Program α bound β) : Agree expected p p
  | ask {k : Kind} (part : Quantity α k) (lower : part.rank < bound)
      {next next' : Carrier α k → Program α bound β}
      (h : ∀ value, expected part value → Agree expected (next value) (next' value)) :
      Agree expected (.ask part lower next) (.ask part lower next')

end Program

/-- Programs that agree have one execution, if every answer on the way is
as expected. What makes the answers so is a property of the memory that
they preserve. -/
theorem Memory.run_execute_of_agree {setting : Setting α}
    {expected : ⦃k : Kind⦄ → Quantity α k → Carrier α k → Prop} {good : Memory α → Prop}
    (hanswer : ∀ {k : Kind} (part : Quantity α k) {m m' : Memory α} {kept : Kept α k}, good m →
      (Memory.evaluate setting part).run m = (.ok kept, m') → expected part kept.value ∧ good m')
    {bound : Nat} {β : Type} {p p' : Program α bound β} (h : Program.Agree expected p p')
    {m : Memory α} (hm : good m) :
    (Memory.execute setting p).run m = (Memory.execute setting p').run m := by
  induction h generalizing m with
  | refl p => rfl
  | @ask _ part lower next next' _ ih =>
      simp only [Memory.execute, Program.run, Memory.run_bind, Memory.run_map]
      rcases hrun : (Memory.evaluate setting part).run m with ⟨error | kept, m'⟩
      · rfl
      · -- The answer is an expected one, and from there the programs agree.
        obtain ⟨hvalue, hafter⟩ := hanswer part hm hrun
        exact ih kept.value hvalue hafter

/-- Slacks are expected to be positive, and of other answers nothing is
expected. -/
def Positive : ⦃k : Kind⦄ → Quantity α k → Carrier α k → Prop
  | _, .slack _ _, entries => ∀ entry ∈ entries, 0 < entry
  | _, _, _ => True

namespace Quantity

variable (log' : α → α) (div' : α → α → α) (setting : Setting α) (block : Block)

/-- The terms of a barrier gradient divide by slacks. -/
theorem addBarrierGradient_agree (gradient : List α) {bound : Nat} (lower : 0 < bound) :
    Program.Agree Positive
      (@addBarrierGradient α (Scalar.offPositive log' div') bound setting block gradient lower)
      (addBarrierGradient setting block gradient lower) := by
  refine .ask _ _ fun lowerSlack hlower => .ask _ _ fun upperSlack hupper => ?_
  simp only [Program.bind, Selection.scatterAdd_offPositive]
  rw [Linear.reciprocals_offPositive log' div' hlower,
    Linear.reciprocals_offPositive log' div' hupper]
  exact .refl _

/-- The primal-dual scaling divides multipliers by slacks. -/
theorem primalDualScaling_agree :
    Program.Agree Positive
      (@formula α (Scalar.offPositive log' div') setting _ (.primalDualScaling block))
      (formula setting (.primalDualScaling block)) := by
  refine .ask _ _ fun lowerSlack hlower => .ask _ _ fun upperSlack hupper => ?_
  simp only [Program.bind, Selection.scatterAdd_offPositive]
  rw [Linear.entrywiseDiv_offPositive log' div' _ hlower,
    Linear.entrywiseDiv_offPositive log' div' _ hupper]
  exact .refl _

end Quantity

end InteriorPoint
