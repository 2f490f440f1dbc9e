import InteriorPoint.Quantity.Program

/-!
# `InteriorPoint.Proofs.Quantity.Program`: what a program may ask, report and return

Programs form a lawful monad, so a formula can be brought into the form
of a chain of single steps. Two things are said about such a chain.

`Program.Within` bounds a program on all its paths at once: what it asks
for, what it reports and what it returns. The answers to its requests
are arbitrary there. The rules for a single step (`within_value`,
`within_tell`, `within_ofChecked`) take a formula apart.

`run_bind` says that executing a chain in `Checked` executes its steps
one after the other and ends at the first failure.
-/

set_option autoImplicit false

namespace InteriorPoint.Program

variable {α β γ : Type} {bound : Nat}

/-- To return what came out changes nothing. -/
theorem bind_done (p : Program α bound β) : p.bind done = p := by
  -- On the program; only what follows a request is a function of its answer.
  induction p with
  | done value => rfl
  | fail error => rfl
  | report event next ih => rw [bind, ih]
  | ask quantity lower next ih =>
      rw [bind]
      congr
      funext value
      exact ih value

/-- Chains may be grouped in either way. -/
theorem bind_bind {δ : Type} (p : Program α bound β) (f : β → Program α bound γ)
    (g : γ → Program α bound δ) : (p.bind f).bind g = p.bind fun value => (f value).bind g := by
  induction p with
  | done value => rfl
  | fail error => rfl
  | report event next ih => simp only [bind, ih]
  | ask quantity lower next ih =>
      simp only [bind]
      congr
      funext value
      exact ih value

/-- So programs obey the laws of a monad. -/
instance : LawfulMonad (Program α bound) := LawfulMonad.mk' (Program α bound)
  bind_done (fun _ _ => rfl) bind_bind

/-- A check that passes leaves its result. -/
@[simp]
theorem lift_ok_bind (value : β) (f : β → Program α bound γ) :
    ((liftM (Except.ok value : Checked α β) : Program α bound β) >>= f) = f value :=
  rfl

/-! ### Bounds on all paths -/

/-- On every path, whatever the answers are, the program asks only for
quantities in `asks`, reports only events in `reports`, and returns only
values in `returns`. -/
def Within (asks : {k : Kind} → Quantity α k → Prop) (reports : Event α → Prop)
    (returns : β → Prop) : Program α bound β → Prop
  | done value => returns value
  | fail _ => True
  | report event next => reports event ∧ next.Within asks reports returns
  | ask quantity _ next => asks quantity ∧ ∀ value, (next value).Within asks reports returns

section
variable {asks : {k : Kind} → Quantity α k → Prop} {reports : Event α → Prop}
  {returns : γ → Prop}

/-- A program that returns at once returns what it is given. -/
@[simp]
theorem within_pure (value : γ) :
    (pure value : Program α bound γ).Within asks reports returns ↔ returns value :=
  Iff.rfl

/-- A chain keeps within bounds if its first part does, with results
from which the second part does. -/
@[simp]
theorem within_bind (p : Program α bound β) (f : β → Program α bound γ) :
    (p >>= f).Within asks reports returns
      ↔ p.Within asks reports fun value => (f value).Within asks reports returns := by
  change (p.bind f).Within asks reports returns ↔ _
  -- On the first part, which is where the chain begins.
  induction p with
  | done value => rfl
  | fail error => rfl
  | report event next ih => simp only [bind, Within, ih]
  | ask quantity lower next ih => simp only [bind, Within, ih]

/-- A function is applied to what is returned. -/
@[simp]
theorem within_map (f : β → γ) (p : Program α bound β) :
    (f <$> p).Within asks reports returns
      ↔ p.Within asks reports fun value => returns (f value) := by
  rw [← bind_pure_comp, within_bind]
  rfl

/-- A request asks for its quantity, and any value may come back. -/
@[simp]
theorem within_value {k : Kind} (quantity : Quantity α k) (lower : quantity.rank < bound)
    {returns : Carrier α k → Prop} :
    Within (β := no_index (Carrier α k)) asks reports returns (value quantity lower)
      ↔ asks quantity ∧ ∀ value, returns value :=
  Iff.rfl

/-- A report reports its event. -/
@[simp]
theorem within_tell (event : Event α) {returns : Unit → Prop} :
    (tell event : Program α bound Unit).Within asks reports returns
      ↔ reports event ∧ returns () :=
  Iff.rfl

/-- A check returns its result if it passes. -/
@[simp]
theorem within_ofChecked (checked : Checked α γ) :
    (ofChecked checked : Program α bound γ).Within asks reports returns
      ↔ ∀ value, checked = .ok value → returns value := by
  cases checked <;> simp [ofChecked, Within]

/-- The same of a check that stands in a program. -/
@[simp]
theorem within_lift (checked : Checked α γ) :
    (liftM checked : Program α bound γ).Within asks reports returns
      ↔ ∀ value, checked = .ok value → returns value :=
  within_ofChecked checked

/-- Both branches keep within the bounds, each under its condition. -/
@[simp]
theorem within_ite (c : Prop) [Decidable c] (p q : Program α bound γ) :
    (if c then p else q).Within asks reports returns
      ↔ (c → p.Within asks reports returns) ∧ (¬ c → q.Within asks reports returns) := by
  split <;> simp [*]

/-- Weaker bounds hold as well. -/
theorem Within.mono {asks' : {k : Kind} → Quantity α k → Prop} {reports' : Event α → Prop}
    {returns' : γ → Prop} {p : Program α bound γ} (h : p.Within asks reports returns)
    (hasks : ∀ {k : Kind} (quantity : Quantity α k), asks quantity → asks' quantity)
    (hreports : ∀ event, reports event → reports' event)
    (hreturns : ∀ value, returns value → returns' value) : p.Within asks' reports' returns' := by
  induction p with
  | done value => exact hreturns value h
  | fail error => trivial
  | report event next ih => exact ⟨hreports event h.1, ih h.2⟩
  | ask quantity lower next ih => exact ⟨hasks quantity h.1, fun value => ih value (h.2 value)⟩

end

/-! ### Execution in `Checked` -/

/-- Executing one program after another in `Checked`. -/
theorem run_bind (record : Event α → Checked α Unit)
    (answer : {k : Kind} → (quantity : Quantity α k) → quantity.rank < bound →
      Checked α (Carrier α k))
    (p : Program α bound β) (f : β → Program α bound γ) :
    (p >>= f).run record answer
      = p.run record answer >>= fun value => (f value).run record answer := by
  change (p.bind f).run record answer = _
  induction p with
  | done value => rfl
  | fail error => rfl
  | report event next ih => simp only [bind, run, ih, bind_assoc]
  | ask quantity lower next ih => simp only [bind, run, ih, bind_assoc]

/-- A check is executed by checking. -/
theorem run_ofChecked (record : Event α → Checked α Unit)
    (answer : {k : Kind} → (quantity : Quantity α k) → quantity.rank < bound →
      Checked α (Carrier α k))
    (checked : Checked α β) :
    (ofChecked checked : Program α bound β).run record answer = checked := by
  cases checked <;> rfl

end InteriorPoint.Program
