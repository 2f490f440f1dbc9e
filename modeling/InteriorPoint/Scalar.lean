/-!
# `InteriorPoint.Scalar`: the arithmetic a quantity is computed in

Every quantity of this library is a formula over a number system that
is left open. The class `Scalar` lists what the formulas use: the four
operations, comparison, square root and logarithm, a test for ordinary
numbers, and two small constants. Binary64 is one instance
(`InteriorPoint.Scalar.Binary64`); an ordered field is another, and a
statement in exact arithmetic is the same formula read there.

Nothing here assumes a law. In particular `a ≤ a` may be false, which
is how a value that is not a number shows itself, and `max` and `min`
answer with the other operand when one of the two is such a value. Both
are therefore written out from comparisons (`Scalar.max`,
`Scalar.min`) and so are the absolute value, the clamp and the test for
zero.
-/

set_option autoImplicit false

namespace InteriorPoint

/-- A number system in which the quantities can be evaluated. Counts
enter through `NatCast`. -/
class Scalar (α : Type) extends Zero α, One α, Add α, Sub α, Mul α, Div α, Neg α,
    NatCast α, LT α, LE α where
  /-- Equality of representations, which keys of caches compare by. -/
  decidableEq : DecidableEq α
  /-- The strict comparison can be decided. -/
  decidableLT : DecidableLT α
  /-- The comparison can be decided. -/
  decidableLE : DecidableLE α
  /-- Square root. -/
  sqrt : α → α
  /-- Natural logarithm. -/
  log : α → α
  /-- Neither infinite nor undefined. -/
  isFinite : α → Bool
  /-- Spacing of the numbers next to one. -/
  epsilon : α
  /-- A positive number that stands in where `epsilon` times another
  number has vanished. -/
  tiny : α

namespace Scalar

variable {α : Type} [Scalar α]

/-- Representations can be compared for equality. -/
instance : DecidableEq α := Scalar.decidableEq

/-- The strict comparison can be evaluated. -/
instance : DecidableLT α := Scalar.decidableLT

/-- The comparison can be evaluated. -/
instance : DecidableLE α := Scalar.decidableLE

/-- A value that compares with itself, which an undefined one does not. -/
def IsNumber (a : α) : Prop :=
  a ≤ a

/-- Whether a value is a number can be evaluated. -/
instance (a : α) : Decidable (IsNumber a) :=
  inferInstanceAs (Decidable (a ≤ a))

/-- Equality by value: the two zeros are equal, and an undefined value
is equal to none. -/
def Same (a b : α) : Prop :=
  a ≤ b ∧ b ≤ a

/-- Equality by value can be evaluated. -/
instance (a b : α) : Decidable (Same a b) :=
  inferInstanceAs (Decidable (_ ∧ _))

/-- Equal to zero, whatever the sign of the zero. -/
def IsZero (a : α) : Prop :=
  Same a 0

/-- Whether a value is zero can be evaluated. -/
instance (a : α) : Decidable (IsZero a) :=
  inferInstanceAs (Decidable (Same a 0))

/-- The larger of two values. If one is undefined the other is the
answer. -/
def max (a b : α) : α :=
  if ¬ IsNumber a then b
  else if ¬ IsNumber b then a
  else if a < b then b else a

/-- The smaller of two values. If one is undefined the other is the
answer. -/
def min (a b : α) : α :=
  if ¬ IsNumber a then b
  else if ¬ IsNumber b then a
  else if b < a then b else a

/-- The value with the sign of a zero dropped, so that equal numbers
have one representation. -/
def unsigned (a : α) : α :=
  if IsZero a then 0 else a

/-- Absolute value, which for either zero is the zero without a sign. An
undefined value stays undefined. -/
def abs (a : α) : α :=
  if a < 0 then -a else unsigned a

/-- The nearest value within `[lo, hi]`. An undefined value stays
undefined. -/
def clamp (lo hi a : α) : α :=
  if a < lo then lo else if hi < a then hi else a

/-- Sum from left to right, starting at zero. -/
def sum (entries : List α) : α :=
  entries.foldl (· + ·) 0

end Scalar

end InteriorPoint
