import InteriorPoint.Document
import InteriorPoint.Norm.Spelling
import InteriorPoint.Options

/-!
# `InteriorPoint.Options.Document`: options from a document

Options are read from an object with the fields `constr_viol_normtype`,
`s_max`, `kappa_d` and `s_move`, or from an array that gives them in
this order. What is left out has its standard value. An object may have
fields of other names, which are passed over, but no field of these
twice. An array may not be longer.

A norm is a string with one of its spellings, or an object whose only
member has a spelling as its name and the value `null`. Nothing is
checked about the range of a number here (see `Options.validate`), only
that it is one.
-/

set_option autoImplicit false

namespace InteriorPoint

/-- The norm given by a document. -/
def Norm.ofDocument? : Document → Option Norm
  | .string (some text) => Norm.ofSpelling? text
  -- A variant without data may also be written as an object with its name.
  | .object [(some name, .null)] => Norm.ofSpelling? name
  | _ => none

/-- Options of which some have been given. -/
structure OptionsDraft (α : Type) where
  violationNorm : Option Norm := none
  multiplierThreshold : Option α := none
  dampingWeight : Option α := none
  boundMove : Option α := none

namespace OptionsDraft

variable {α : Type}

/-- Gives an option that has not been given yet. -/
def setOnce {β : Type} (old : Option β) (new : Option β) : Option (Option β) :=
  match old, new with
  | none, some value => some (some value)
  | _, _ => none

/-- The number given by a document, where `number` turns a decimal into
a scalar if it is in range. -/
def readNumber (number : Bool → Decimal.Digits → Option α) : Document → Option α
  | .number negative magnitude => number negative magnitude
  | _ => none

/-- Gives the option with the given name. A name that belongs to no
option is passed over. -/
def set (number : Bool → Decimal.Digits → Option α) (draft : OptionsDraft α) (name : String)
    (value : Document) : Option (OptionsDraft α) :=
  if name = "constr_viol_normtype" then
    (setOnce draft.violationNorm (Norm.ofDocument? value)).map ({ draft with violationNorm := · })
  else if name = "s_max" then
    (setOnce draft.multiplierThreshold (readNumber number value)).map
      ({ draft with multiplierThreshold := · })
  else if name = "kappa_d" then
    (setOnce draft.dampingWeight (readNumber number value)).map ({ draft with dampingWeight := · })
  else if name = "s_move" then
    (setOnce draft.boundMove (readNumber number value)).map ({ draft with boundMove := · })
  else some draft

/-- The names of the options, in the order of an array. -/
def names : List String :=
  ["constr_viol_normtype", "s_max", "kappa_d", "s_move"]

/-- The options given by a document. -/
def ofDocument? (number : Bool → Decimal.Digits → Option α) : Document → Option (OptionsDraft α)
  | .object members =>
    members.foldlM (fun draft member => member.1.bind fun name => draft.set number name member.2) {}
  | .array items =>
    if items.length ≤ names.length then
      (names.zip items).foldlM (fun draft item => draft.set number item.1 item.2) {}
    else none
  | _ => none

/-- The options with standard values where none are given. -/
def complete [Scalar α] (draft : OptionsDraft α) : Options α where
  violationNorm := draft.violationNorm.getD Norm.standard
  multiplierThreshold := draft.multiplierThreshold.getD Options.standard.multiplierThreshold
  dampingWeight := draft.dampingWeight.getD Options.standard.dampingWeight
  boundMove := draft.boundMove.getD Options.standard.boundMove

end OptionsDraft

/-- The options given by a document, completed with standard values. -/
def Options.ofDocument? {α : Type} [Scalar α] (number : Bool → Decimal.Digits → Option α)
    (document : Document) : Option (Options α) :=
  (OptionsDraft.ofDocument? number document).map OptionsDraft.complete

end InteriorPoint
