import InteriorPoint.Cache.Key
import InteriorPoint.Problem
import InteriorPoint.State

/-!
# `InteriorPoint.Event`: what happens while a request is answered

Answering a request calls functions of the problem, stores results and
corrects slacks. Each such occurrence is recorded as an `Event`, in the
order in which it happens. Some of them are also reported as a line of
a log (`Event.report?`).
-/

set_option autoImplicit false

namespace InteriorPoint

namespace Point

/-- The other one of the two points. -/
def other : Point → Point
  | current => trial
  | trial => current

/-- The point as the first part of the name of a quantity. -/
def label : Point → String
  | current => "curr"
  | trial => "trial"

/-- The point as a word of a sentence. -/
def word : Point → String
  | current => "Current"
  | trial => "Trial"

end Point

/-- Something that happened while a request was answered. -/
inductive Event (α : Type) where
  /-- A function of the problem was called for the inputs with these
  identities. -/
  | evaluated (callback : Callback) (inputs : List Tag)
  /-- A cache did not hold the result under a key. -/
  | missed (cache : String) (key : Key α)
  /-- Collapsed entries of a slack vector were corrected. -/
  | safeguarded (count : Nat) (family : Family) (point : Point)
  /-- The barrier term is infinite or undefined. -/
  | degenerate (term mu : α)
  /-- An engine was set up. -/
  | initialized (dims : Dimensions) (dampingWeight : α)
  /-- The trial point became the current point. -/
  | accepted
deriving DecidableEq, Repr

/-- How important a report is. -/
inductive Level where
  | trace
  | debug
  | warn
deriving DecidableEq, Repr

/-- A line of a log. -/
structure Report where
  level : Level
  message : String
deriving DecidableEq, Repr

namespace Event

variable {α : Type}

/-- The log line of an event, with numbers written by `write`. Calls of
the problem's functions have none. -/
def report? (write : α → String) : Event α → Option Report
  | evaluated _ _ => none
  | missed cache _ => some ⟨.trace, "cache miss: " ++ cache⟩
  | safeguarded count family point =>
    some ⟨.debug, "safeguarded " ++ toString count ++ " " ++ family.label ++ " slack(s) at the "
      ++ point.word ++ " point"⟩
  | degenerate term mu =>
    some ⟨.warn, "barrier term evaluated to " ++ write term ++ " (mu = " ++ write mu ++ ")"⟩
  | initialized dims dampingWeight =>
    some ⟨.debug, "quantity engine initialized: n_x = " ++ toString dims.x ++ ", n_s = "
      ++ toString dims.s ++ ", n_c = " ++ toString dims.c ++ ", kappa_d = "
      ++ write dampingWeight⟩
  | accepted => some ⟨.debug, "accepting trial iterate"⟩

end Event

end InteriorPoint
