import InteriorPoint.Identity
import InteriorPoint.Norm

/-!
# `InteriorPoint.Cache.Key`: what a stored result depends on

A key lists the identities of the inputs a result was derived from and
the parameters that entered it besides. Two lists are kept, so the
position of an identity relative to a parameter does not matter, while
the order within each list does.
-/

set_option autoImplicit false

namespace InteriorPoint

/-- A parameter of a result that is not a tagged input. -/
inductive KeyPart (α : Type) where
  | number (value : α)
  | norm (norm : Norm)
deriving DecidableEq, Repr

/-- The inputs of a result. -/
structure Key (α : Type) where
  /-- Identities of the inputs. -/
  tags : List Tag := []
  /-- Parameters besides. -/
  parts : List (KeyPart α) := []
deriving DecidableEq, Repr

namespace Key

variable {α : Type}

/-- The key of the given identities and no parameter. -/
def ofTags (tags : List Tag) : Key α :=
  { tags }

/-- Appends the identity of an input. -/
def tag (key : Key α) (tag : Tag) : Key α :=
  { key with tags := key.tags ++ [tag] }

/-- Appends a norm. -/
def norm (key : Key α) (norm : Norm) : Key α :=
  { key with parts := key.parts ++ [.norm norm] }

/-- Whether the key lists the identity. -/
def dependsOn (key : Key α) (tag : Tag) : Bool :=
  key.tags.contains tag

/-- Appends a number. Both zeros give the same key; other numbers are
told apart by their representation. -/
def number [Scalar α] (key : Key α) (value : α) : Key α :=
  { key with parts := key.parts ++ [.number (Scalar.unsigned value)] }

end Key

end InteriorPoint
