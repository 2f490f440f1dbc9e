import InteriorPoint.Decimal.Shortest

/-!
# `InteriorPoint.Document`: reading JSON

`Document.read` accepts a text that is one JSON value with optional
white space around it, in the strict sense of the grammar: no trailing
commas, no comments, no leading zeros, and no control characters inside
strings.

A document keeps what a later reader may refuse. Numbers stay decimals,
however large. A string that contains half of a surrogate pair has no
characters, so its text is missing. The members of an object keep their
order and their repetitions.
-/

set_option autoImplicit false

namespace InteriorPoint

/-- A JSON value. -/
inductive Document where
  | null
  | boolean (value : Bool)
  | number (negative : Bool) (magnitude : Decimal.Digits)
  /-- A string, without text if it is not a sequence of characters. -/
  | string (text : Option String)
  | array (items : List Document)
  | object (members : List (Option String × Document))

namespace Document

/-- White space between the parts of a document. -/
def isSpace (c : Char) : Bool :=
  c = ' ' || c = '\t' || c = '\n' || c = '\r'

/-- The text from its first character that is not white space. -/
def skipSpace (text : List Char) : List Char :=
  text.dropWhile isSpace

/-- The digits at the start of a text and the rest. There has to be at
least one. -/
def readDigits (text : List Char) : Option (List Char × List Char) :=
  match text.takeWhile Char.isDigit with
  | [] => none
  | digits => some (digits, text.dropWhile Char.isDigit)

/-- The number that decimal digits stand for. -/
def digitsValue (digits : List Char) : Nat :=
  digits.foldl (fun value c => 10 * value + (c.toNat - '0'.toNat)) 0

/-- The whole part of a number: a single zero, or digits that do not
start with one. -/
def readWhole : List Char → Option (List Char × List Char)
  | '0' :: rest => some (['0'], rest)
  | text => readDigits text

/-- The fractional part of a number, if there is one. -/
def readFraction : List Char → Option (List Char × List Char)
  | '.' :: rest => readDigits rest
  | text => some ([], text)

/-- The exponent of a number, zero if there is none. -/
def readExponent : List Char → Option (Int × List Char)
  | 'e' :: rest | 'E' :: rest =>
    match rest with
    | '-' :: rest => (readDigits rest).map fun (digits, rest) => (-(digitsValue digits : Int), rest)
    | '+' :: rest => (readDigits rest).map fun (digits, rest) => ((digitsValue digits : Int), rest)
    | rest => (readDigits rest).map fun (digits, rest) => ((digitsValue digits : Int), rest)
  | text => some (0, text)

/-- A number without its sign. -/
def readMagnitude (text : List Char) : Option (Decimal.Digits × List Char) := do
  let (whole, text) ← readWhole text
  let (fraction, text) ← readFraction text
  let (exponent, text) ← readExponent text
  -- The digits behind the point are counted off the exponent.
  return (⟨digitsValue (whole ++ fraction), exponent - fraction.length⟩, text)

/-- A number. -/
def readNumber : List Char → Option (Document × List Char)
  | '-' :: rest => (readMagnitude rest).map fun (magnitude, rest) => (number true magnitude, rest)
  | text => (readMagnitude text).map fun (magnitude, rest) => (number false magnitude, rest)

/-- The value of a hexadecimal digit. -/
def hexValue? (c : Char) : Option Nat :=
  if '0' ≤ c ∧ c ≤ '9' then some (c.toNat - '0'.toNat)
  else if 'a' ≤ c ∧ c ≤ 'f' then some (c.toNat - 'a'.toNat + 10)
  else if 'A' ≤ c ∧ c ≤ 'F' then some (c.toNat - 'A'.toNat + 10)
  else none

/-- The character that a one-letter escape stands for. -/
def escaped? : Char → Option Char
  | '"' => some '"'
  | '\\' => some '\\'
  | '/' => some '/'
  | 'b' => some '\x08'
  | 'f' => some '\x0c'
  | 'n' => some '\n'
  | 'r' => some '\r'
  | 't' => some '\t'
  | _ => none

/-- The code points of a string up to the closing quote, where an
escaped half of a surrogate pair counts as a code point. -/
def readCodePoints : List Char → Option (List Nat × List Char)
  | '"' :: rest => some ([], rest)
  | '\\' :: 'u' :: a :: b :: c :: d :: rest => do
    let code := (((← hexValue? a) * 16 + (← hexValue? b)) * 16 + (← hexValue? c)) * 16
      + (← hexValue? d)
    let (codes, rest) ← readCodePoints rest
    return (code :: codes, rest)
  | '\\' :: c :: rest => do
    let char ← escaped? c
    let (codes, rest) ← readCodePoints rest
    return (char.toNat :: codes, rest)
  | c :: rest => do
    -- Control characters have to be escaped.
    guard (0x20 ≤ c.toNat)
    let (codes, rest) ← readCodePoints rest
    return (c.toNat :: codes, rest)
  | [] => none

/-- The first half of a surrogate pair. -/
def isHighSurrogate (code : Nat) : Bool :=
  0xD800 ≤ code && code < 0xDC00

/-- The second half of a surrogate pair. -/
def isLowSurrogate (code : Nat) : Bool :=
  0xDC00 ≤ code && code < 0xE000

/-- The characters of a sequence of code points, with surrogate pairs
joined. Half of a pair on its own is no character. -/
def joinSurrogates : List Nat → Option (List Char)
  | [] => some []
  | high :: low :: rest =>
    if isHighSurrogate high && isLowSurrogate low then
      (joinSurrogates rest).map
        (Char.ofNat (0x10000 + (high - 0xD800) * 0x400 + (low - 0xDC00)) :: ·)
    else if isHighSurrogate high || isLowSurrogate high then none
    else (joinSurrogates (low :: rest)).map (Char.ofNat high :: ·)
  | [code] =>
    if isHighSurrogate code || isLowSurrogate code then none else some [Char.ofNat code]

/-- A string after its opening quote. -/
def readText (text : List Char) : Option (Option String × List Char) :=
  (readCodePoints text).map fun (codes, rest) => ((joinSurrogates codes).map String.ofList, rest)

mutual

/-- A value. Every nested call needs one unit of fuel. -/
def readValue : Nat → List Char → Option (Document × List Char)
  | 0, _ => none
  | fuel + 1, text =>
    match skipSpace text with
    | '\x7b' :: rest =>
      match skipSpace rest with
      | '\x7d' :: rest => some (object [], rest)
      | rest => (readMembers fuel rest).map fun (members, rest) => (object members, rest)
    | '[' :: rest =>
      match skipSpace rest with
      | ']' :: rest => some (array [], rest)
      | rest => (readItems fuel rest).map fun (items, rest) => (array items, rest)
    | '"' :: rest => (readText rest).map fun (text, rest) => (string text, rest)
    | 'n' :: 'u' :: 'l' :: 'l' :: rest => some (null, rest)
    | 't' :: 'r' :: 'u' :: 'e' :: rest => some (boolean true, rest)
    | 'f' :: 'a' :: 'l' :: 's' :: 'e' :: rest => some (boolean false, rest)
    | text => readNumber text

/-- The items of an array up to its closing bracket. -/
def readItems : Nat → List Char → Option (List Document × List Char)
  | 0, _ => none
  | fuel + 1, text => do
    let (item, text) ← readValue fuel text
    match skipSpace text with
    | ',' :: rest =>
      let (items, rest) ← readItems fuel rest
      return (item :: items, rest)
    | ']' :: rest => return ([item], rest)
    | _ => none

/-- The members of an object up to its closing brace. -/
def readMembers : Nat → List Char → Option (List (Option String × Document) × List Char)
  | 0, _ => none
  | fuel + 1, text =>
    match skipSpace text with
    | '"' :: rest => do
      let (name, text) ← readText rest
      match skipSpace text with
      | ':' :: rest =>
        let (value, text) ← readValue fuel rest
        match skipSpace text with
        | ',' :: rest =>
          let (members, rest) ← readMembers fuel rest
          return ((name, value) :: members, rest)
        | '\x7d' :: rest => return ([(name, value)], rest)
        | _ => none
      | _ => none
    | _ => none

end

/-- The value that a text consists of. A nested value takes up at least
one character and two calls, which bounds the fuel. -/
def read (text : String) : Option Document :=
  let chars := text.toList
  -- Nothing but white space may follow the value.
  match readValue (2 * chars.length + 2) chars with
  | some (document, rest) => if (skipSpace rest).isEmpty then some document else none
  | none => none

end Document

end InteriorPoint
