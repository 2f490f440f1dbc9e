import InteriorPoint.Quantity

/-!
# `InteriorPoint.Quantity.Program`: formulas that ask for quantities

A formula is written as a `Program`. It may ask for other quantities,
report an event, and give up. A program of bound `n` asks only for
quantities of rank below `n`.

What asking means is left open. `Program.run` executes a program in any
monad in which quantities can be answered: one that keeps results for
later, or one that computes every answer anew. Both execute the same
formulas.
-/

set_option autoImplicit false

namespace InteriorPoint

/-- A computation of a `β` that asks for quantities of rank below
`bound`. -/
inductive Program (α : Type) (bound : Nat) (β : Type) : Type where
  /-- The result. -/
  | done (value : β)
  /-- There is no result. -/
  | fail (error : Error α)
  /-- Reports an event. -/
  | report (event : Event α) (next : Program α bound β)
  /-- Asks for a quantity and goes on with its value. -/
  | ask {k : Kind} (quantity : Quantity α k) (lower : quantity.rank < bound)
      (next : Carrier α k → Program α bound β)

namespace Program

variable {α β γ : Type} {bound : Nat}

/-- The first program followed by the one its result selects. -/
def bind : Program α bound β → (β → Program α bound γ) → Program α bound γ
  | done value, next => next value
  | fail error, _ => fail error
  | report event rest, next => report event (rest.bind next)
  | ask quantity lower rest, next => ask quantity lower fun value => (rest value).bind next

/-- Programs are put together in sequence. -/
instance : Monad (Program α bound) where
  pure := done
  bind := bind

/-- A checked result as a program that asks for nothing. -/
def ofChecked : Checked α β → Program α bound β
  | .ok value => done value
  | .error error => fail error

/-- A checked result stands in a program as it is. -/
instance : MonadLift (Checked α) (Program α bound) where
  monadLift := ofChecked

/-- Gives up unless a size is as expected. -/
def ensure (context : String) (expected found : Nat) : Program α bound Unit :=
  ofChecked (ensureSize context expected found)

/-- Reports an event. -/
def tell (event : Event α) : Program α bound Unit :=
  report event (done ())

/-- The value of a quantity of smaller rank. -/
def value {k : Kind} (quantity : Quantity α k)
    (lower : quantity.rank < bound := by exact of_decide_eq_true rfl) :
    Program α bound (Carrier α k) :=
  ask quantity lower done

/-- Executes a program in a monad that can fail, given how events are
recorded and how quantities are answered. -/
def run {m : Type → Type} [Monad m] [MonadExceptOf (Error α) m] (record : Event α → m Unit)
    (answer : {k : Kind} → (quantity : Quantity α k) → quantity.rank < bound → m (Carrier α k)) :
    Program α bound β → m β
  | done value => pure value
  | fail error => throw error
  | report event next => do
    record event
    next.run record answer
  | ask quantity lower next => do
    let value ← answer quantity lower
    (next value).run record answer

end Program

end InteriorPoint
