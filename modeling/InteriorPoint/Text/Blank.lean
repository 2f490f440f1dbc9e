/-!
# `InteriorPoint.Text.Blank`: Unicode white space at the ends of a text

`isBlank` is the Unicode property `White_Space`, 25 characters in all.
`trim` drops them from both ends of a text and leaves the inside alone.
`lowerAscii` lowers the letters `A` to `Z` and no other character.
-/

set_option autoImplicit false

namespace InteriorPoint.Text

/-- The ranges of the Unicode property `White_Space`, first and last
code point of each. -/
def blankRanges : List (Nat × Nat) :=
  [(0x09, 0x0D), (0x20, 0x20), (0x85, 0x85), (0xA0, 0xA0), (0x1680, 0x1680),
    (0x2000, 0x200A), (0x2028, 0x2029), (0x202F, 0x202F), (0x205F, 0x205F), (0x3000, 0x3000)]

/-- Membership in `White_Space`. -/
def isBlank (c : Char) : Bool :=
  blankRanges.any fun range => range.1 ≤ c.toNat && c.toNat ≤ range.2

/-- The characters between the white space at both ends. -/
def trim (text : List Char) : List Char :=
  ((text.dropWhile isBlank).reverse.dropWhile isBlank).reverse

/-- The lower case of an ASCII letter, any other character unchanged. -/
def lowerAscii (c : Char) : Char :=
  if 'A' ≤ c ∧ c ≤ 'Z' then Char.ofNat (c.toNat + 32) else c

end InteriorPoint.Text
