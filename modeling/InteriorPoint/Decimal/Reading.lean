import InteriorPoint.Decimal.Shortest
import InteriorPoint.Scalar.Binary64

/-!
# `InteriorPoint.Decimal.Reading`: decimals as binary64 numbers

A decimal is rounded to the nearest binary64 number. One that is too
large for the format has none, and one that is too small becomes zero.
-/

set_option autoImplicit false

namespace InteriorPoint.Decimal

/-- The position of the first digit before the point: the number is
below `10` to this power. -/
def Digits.reach (number : Digits) : Int :=
  (Nat.toDigits 10 number.digits).length + number.exponent

/-- The magnitude nearest to a decimal. Decimals far outside the range
of the format are told by their reach, without computing the power of
ten. -/
def nearestMagnitude (number : Digits) : Float :=
  if number.digits = 0 ∨ number.reach < -330 then 0
  else if 320 < number.reach then 1 / 0
  else
    match number.exponent with
    | .ofNat places => Float.ofScientific number.digits false places
    | .negSucc places => Float.ofScientific number.digits true (places + 1)

/-- The binary64 number nearest to a decimal with a sign. -/
def toBinary64? (negative : Bool) (number : Digits) : Option Binary64 :=
  let magnitude := nearestMagnitude number
  if magnitude.isFinite then some (.ofFloat (if negative then -magnitude else magnitude)) else none

end InteriorPoint.Decimal
