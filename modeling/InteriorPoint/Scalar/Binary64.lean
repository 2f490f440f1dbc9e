import InteriorPoint.Scalar

/-!
# `InteriorPoint.Scalar.Binary64`: quantities in double precision

The instance the library runs in. A number is its encoding in 64 bits,
and two numbers are equal if their encodings are. This tells the two
zeros apart, and also the many encodings of an undefined value, which no
comparison of values can.

Every operation is the correctly rounded one of the format, without
fusing a product and a sum, and the logarithm is that of the C library.
An operation passes from the encodings to the values and back; an
operand that is merely handed on keeps its encoding.
-/

set_option autoImplicit false

namespace InteriorPoint

/-- A binary64 number. -/
structure Binary64 where
  /-- The encoding of the number. -/
  bits : UInt64
deriving DecidableEq, Repr

namespace Binary64

/-- The number with a given value. -/
def ofFloat (x : Float) : Binary64 :=
  ⟨x.toBits⟩

/-- The value of a number. -/
def toFloat (x : Binary64) : Float :=
  .ofBits x.bits

/-- Binary64 arithmetic. `epsilon` is `2⁻⁵²` and `tiny` is `2⁻¹⁰²²`, the
smallest positive number of full precision. -/
instance : Scalar Binary64 where
  zero := ofFloat 0.0
  one := ofFloat 1.0
  add a b := ofFloat (a.toFloat + b.toFloat)
  sub a b := ofFloat (a.toFloat - b.toFloat)
  mul a b := ofFloat (a.toFloat * b.toFloat)
  div a b := ofFloat (a.toFloat / b.toFloat)
  neg a := ofFloat (-a.toFloat)
  natCast n := ofFloat n.toFloat
  lt a b := a.toFloat < b.toFloat
  le a b := a.toFloat ≤ b.toFloat
  decidableEq := inferInstance
  decidableLT a b := Float.decLt a.toFloat b.toFloat
  decidableLE a b := Float.decLe a.toFloat b.toFloat
  sqrt a := ofFloat a.toFloat.sqrt
  log a := ofFloat a.toFloat.log
  isFinite a := a.toFloat.isFinite
  epsilon := ⟨0x3CB0000000000000⟩
  tiny := ⟨0x0010000000000000⟩

end Binary64

end InteriorPoint
