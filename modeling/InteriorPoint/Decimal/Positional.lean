import InteriorPoint.Decimal.Shortest
import InteriorPoint.Scalar.Binary64

/-!
# `InteriorPoint.Decimal.Positional`: numbers in messages

A number is written with the fewest digits that read back as the same
number, always positionally: there is no exponent, however large or
small the number is, and a whole number has no point. A negative zero
keeps its sign.
-/

set_option autoImplicit false

namespace InteriorPoint.Decimal

/-- Digits with a point `places` from the right. -/
def withPoint (digits : List Char) (places : Nat) : List Char :=
  if digits.length ≤ places then
    '0' :: '.' :: List.replicate (places - digits.length) '0' ++ digits
  else
    digits.take (digits.length - places) ++ '.' :: digits.drop (digits.length - places)

/-- A decimal number without an exponent. -/
def positional (number : Digits) : List Char :=
  let digits := Nat.toDigits 10 number.digits
  match number.exponent with
  | .ofNat zeros => digits ++ List.replicate zeros '0'
  | .negSucc places => withPoint digits (places + 1)

/-- The magnitude of a binary64 number from the two fields of its
encoding, zero and the values without magnitude left out. -/
def magnitude? (exponentField fraction : Nat) : Option Binary :=
  if exponentField = 2047 then none
  else if exponentField = 0 then
    -- A subnormal number has no leading bit of its own.
    if fraction = 0 then none else some ⟨fraction, -1074, false⟩
  else some ⟨Nat.pow 2 52 + fraction, exponentField - 1075, fraction == 0 && 1 < exponentField⟩

/-- The text of a binary64 number. -/
def write (x : Binary64) : String :=
  let bits := x.bits.toNat
  let exponentField := bits / Nat.pow 2 52 % Nat.pow 2 11
  let fraction := bits % Nat.pow 2 52
  if exponentField = 2047 ∧ fraction ≠ 0 then "NaN"
  else
    let sign := if bits / Nat.pow 2 63 = 1 then "-" else ""
    match magnitude? exponentField fraction with
    | some magnitude => sign ++ String.ofList (positional (shortest magnitude))
    | none => sign ++ if exponentField = 2047 then "inf" else "0"

end InteriorPoint.Decimal
