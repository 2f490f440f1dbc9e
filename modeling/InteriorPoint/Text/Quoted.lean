import InteriorPoint.Text.Invisible

/-!
# `InteriorPoint.Text.Quoted`: a text between quotes

`quote` writes a text between double quotes so that every character can
be seen. Quotes and backslashes follow a backslash, the common control
characters have a letter, and any other invisible character is written
with its code point in hexadecimal.
-/

set_option autoImplicit false

namespace InteriorPoint.Text

/-- One character between quotes. -/
def quoteChar (c : Char) : List Char :=
  if c = '"' ∨ c = '\\' then ['\\', c]
  else if c = '\n' then ['\\', 'n']
  else if c = '\r' then ['\\', 'r']
  else if c = '\t' then ['\\', 't']
  else if c = '\x00' then ['\\', '0']
  else if isInvisible c then
    ['\\', 'u', '\x7b'] ++ Nat.toDigits 16 c.toNat ++ ['\x7d']
  else [c]

/-- A text between quotes. -/
def quote (text : String) : String :=
  String.ofList ('"' :: text.toList.flatMap quoteChar ++ ['"'])

end InteriorPoint.Text
