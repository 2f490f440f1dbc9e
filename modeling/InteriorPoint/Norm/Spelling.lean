import InteriorPoint.Norm
import InteriorPoint.Text.Blank

/-!
# `InteriorPoint.Norm.Spelling`: the written names of a norm

A norm has several accepted spellings, all in lower case. An option
file gives one of them exactly (`Norm.ofSpelling?`). A text typed by a
person may carry white space around it and capital letters. It is
brought into lower case first and then looked up among the words that
are understood (`Norm.ofWord?`, `Norm.parse`).
-/

set_option autoImplicit false

namespace InteriorPoint.Norm

/-- The accepted spellings of each norm, the preferred one first. -/
def spellings : Norm → List String
  | one => ["l1", "1", "one"]
  | two => ["l2", "2", "two"]
  | max => ["max", "inf", "infinity"]

/-- The norm with exactly this spelling. -/
def ofSpelling? (text : String) : Option Norm :=
  [one, two, max].find? fun norm => norm.spellings.contains text

/-- The norm that a typed word stands for. -/
def ofWord? : String → Option Norm
  | "1" | "l1" | "one" => some one
  | "2" | "l2" | "two" => some two
  | "max" | "inf" | "infinity" => some max
  | _ => none

/-- A text without the white space around it and with its ASCII letters
in lower case. -/
def normalizeSpelling (text : String) : String :=
  String.ofList ((Text.trim text.toList).map Text.lowerAscii)

/-- The norm that a text names, up to white space around it and the case
of ASCII letters. A refusal carries the text in the compared form. -/
def parse {α : Type} (text : String) : Checked α Norm :=
  match ofWord? (normalizeSpelling text) with
  | some norm => .ok norm
  | none => .error (.unrecognized "norm type" (normalizeSpelling text))

end InteriorPoint.Norm
