import InteriorPoint.Proofs.Checked
import InteriorPoint.Proofs.Quantity.Program
import InteriorPoint.Quantity.Formula

/-!
# `InteriorPoint.Proofs.Quantity.Value`: what a quantity is, without caches

`Setting.value` computes a quantity from the setting alone. Every
quantity a formula asks for is computed anew, nothing is stored, and
events are passed over. An engine is measured against it.

The recursion runs on a bound of the rank, as the one with caches does.
`value_eq` drops the bound: the value of a quantity is its key, which
may refuse the request, followed by its formula with every request
answered by its value (`Setting.eval`).
-/

set_option autoImplicit false

namespace InteriorPoint

/-- A quantity lies below the bound after its rank. -/
theorem Quantity.rank_lt_succ {α : Type} {k : Kind} (quantity : Quantity α k) :
    quantity.rank < quantity.rank + 1 :=
  Nat.lt_succ_self _

/-- The parts of a quantity of rank at most `bound` have a rank below
`bound`. -/
theorem Quantity.rank_lt_of_part {α : Type} {k k' : Kind} {quantity : Quantity α k}
    {part : Quantity α k'} {bound : Nat} (lower : quantity.rank < bound + 1)
    (smaller : part.rank < quantity.rank) : part.rank < bound :=
  Nat.lt_of_lt_of_le smaller (Nat.le_of_lt_succ lower)

namespace Setting

variable {α β γ : Type} [Scalar α] {bound : Nat}

/-- The value of a quantity of rank below `bound`. -/
def valueBelow (setting : Setting α) :
    (bound : Nat) → {k : Kind} → (quantity : Quantity α k) → quantity.rank < bound →
      Checked α (Carrier α k)
  | bound + 1, _, quantity, lower => do
    let _ ← setting.key quantity
    (quantity.formula setting).run (fun _ => .ok ()) fun part smaller =>
      valueBelow setting bound part (Quantity.rank_lt_of_part lower smaller)

/-- The value of a quantity, or why it has none. -/
def value (setting : Setting α) {k : Kind} (quantity : Quantity α k) : Checked α (Carrier α k) :=
  setting.valueBelow (quantity.rank + 1) quantity quantity.rank_lt_succ

/-- The result of a program whose requests are answered by the values of
the quantities. -/
def eval (setting : Setting α) (p : Program α bound β) : Checked α β :=
  p.run (fun _ => .ok ()) fun part _ => setting.value part

/-- Any bound above the rank gives the same value. -/
theorem valueBelow_irrel (setting : Setting α) (b₁ : Nat) :
    ∀ (b₂ : Nat) {k : Kind} (quantity : Quantity α k) (l₁ : quantity.rank < b₁)
      (l₂ : quantity.rank < b₂),
      setting.valueBelow b₁ quantity l₁ = setting.valueBelow b₂ quantity l₂ := by
  -- Induction on one bound, with the other one and the quantity free.
  induction b₁ with
  | zero => intro _ _ _ l₁; exact absurd l₁ (Nat.not_lt_zero _)
  | succ b₁ ih =>
      intro b₂ k quantity l₁ l₂
      cases b₂ with
      | zero => exact absurd l₂ (Nat.not_lt_zero _)
      | succ b₂ =>
          simp only [valueBelow]
          congr
          funext _
          congr
          funext k part smaller
          exact ih b₂ part _ _

/-- The value of a quantity is that of its formula, unless its key
refuses the request. -/
theorem value_eq (setting : Setting α) {k : Kind} (quantity : Quantity α k) :
    setting.value quantity
      = setting.key quantity >>= fun _ => setting.eval (quantity.formula setting) := by
  unfold value eval
  simp only [valueBelow]
  congr
  funext _
  congr
  funext k part smaller
  exact valueBelow_irrel setting _ _ part _ _

/-! ### One step of a program after the other -/

/-- A request is answered by the value, and the rest goes on with it. -/
theorem eval_ask (setting : Setting α) {k : Kind} (part : Quantity α k) (lower : part.rank < bound)
    (next : Carrier α k → Program α bound β) :
    setting.eval (.ask part lower next)
      = setting.value part >>= fun v => setting.eval (next v) :=
  rfl

/-- A result is given as it is. -/
@[simp]
theorem eval_pure (setting : Setting α) (v : β) :
    setting.eval (pure v : Program α bound β) = pure v :=
  rfl

/-- A chain is executed one part after the other. -/
@[simp]
theorem eval_bind (setting : Setting α) (p : Program α bound β) (f : β → Program α bound γ) :
    setting.eval (p >>= f) = setting.eval p >>= fun v => setting.eval (f v) :=
  Program.run_bind _ _ p f

/-- A checked result is passed on. -/
@[simp]
theorem eval_ofChecked (setting : Setting α) (checked : Checked α β) :
    setting.eval (Program.ofChecked checked : Program α bound β) = checked :=
  Program.run_ofChecked _ _ checked

/-- A report has no effect on the result. -/
@[simp]
theorem eval_tell (setting : Setting α) (event : Event α) :
    setting.eval (Program.tell event : Program α bound Unit) = pure () :=
  rfl

/-- The image of a result. -/
@[simp]
theorem eval_map (setting : Setting α) (f : β → γ) (p : Program α bound β) :
    setting.eval (f <$> p) = f <$> setting.eval p := by
  rw [← bind_pure_comp, eval_bind, ← bind_pure_comp]
  rfl

/-- A checked result as a step of a program. -/
@[simp]
theorem eval_lift (setting : Setting α) (checked : Checked α β) :
    setting.eval (liftM checked : Program α bound β) = checked :=
  eval_ofChecked setting checked

/-- A check of a size. -/
@[simp]
theorem eval_ensure (setting : Setting α) (context : String) (expected found : Nat) :
    setting.eval (Program.ensure context expected found : Program α bound Unit)
      = ensureSize context expected found :=
  eval_ofChecked setting _

/-- A decision is taken before the program is executed. -/
@[simp]
theorem eval_ite (setting : Setting α) (c : Prop) [Decidable c] (p q : Program α bound β) :
    setting.eval (if c then p else q) = if c then setting.eval p else setting.eval q := by
  split <;> rfl

/-- A loop is executed one entry after the other. -/
@[simp]
theorem eval_foldlM {δ : Type} (setting : Setting α) (step : β → δ → Program α bound β)
    (entries : List δ) (initial : β) :
    setting.eval (entries.foldlM step initial)
      = entries.foldlM (fun v entry => setting.eval (step v entry)) initial := by
  induction entries generalizing initial with
  | nil => rfl
  | cons entry entries ih => simp only [List.foldlM_cons, eval_bind, ih]

/-- A single request is answered by the value. -/
-- Indexing would tell `Carrier α k` from the type it stands for.
@[simp]
theorem eval_value (setting : Setting α) {k : Kind} (quantity : Quantity α k)
    (lower : quantity.rank < bound) :
    setting.eval (β := no_index (Carrier α k)) (Program.value quantity lower)
      = setting.value quantity :=
  bind_pure (setting.value quantity)

/-- The slacks of all families are their values. -/
@[simp]
theorem eval_slacks (setting : Setting α) (point : Point) (lower : 0 < bound) :
    setting.eval (Quantity.slacks point lower)
      = PerFamily.ofFnM fun family => setting.value (.slack point family) :=
  rfl

/-- The products of all families are their values. -/
@[simp]
theorem eval_complementarities (setting : Setting α) (lower : 1 < bound) :
    setting.eval (Quantity.complementarities lower)
      = PerFamily.ofFnM fun family => setting.value (.complementarity family) :=
  rfl

end Setting

end InteriorPoint
