import InteriorPoint.Linear.Vector

/-!
# `InteriorPoint.Slack`: keeping slacks away from zero

A slack is the distance of a variable to its bound. The barrier takes
its logarithm and divides by it, so a slack that has collapsed onto the
bound, or passed it, is lifted back into the interior. `Slack.least` is
the smallest slack that is let through. An entry below it moves to the
slack that would put its pair on the central path, `mu / multiplier`,
but no further from where it is than the bound itself may move.

The test that lets an entry through is `least ≤ slack`, so an undefined
slack counts as collapsed and is replaced too.
-/

set_option autoImplicit false

namespace InteriorPoint.Slack

variable {α : Type} [Scalar α]

/-- The smallest slack let through: `epsilon * min mu 1` while that is
positive, and a tiny positive number once it has vanished. -/
def least (mu : α) : α :=
  if 0 < Scalar.epsilon * Scalar.min mu 1 then Scalar.epsilon * Scalar.min mu 1
  else Scalar.tiny

/-- The slack of a pair on the central path, not below `least mu`. Only
a positive multiplier determines it. -/
def central (mu multiplier : α) : α :=
  if 0 < multiplier then Scalar.max (mu / multiplier) (least mu) else least mu

/-- How far a slack may be lifted: by the given fraction of the bound's
magnitude, which counts as at least one. -/
def cap (move slack bound : α) : α :=
  slack + move * Scalar.max (Scalar.abs bound) 1

/-- The corrected value of a collapsed slack. -/
def lift (mu move slack bound multiplier : α) : α :=
  Scalar.max (Scalar.min (central mu multiplier) (cap move slack bound)) (least mu)

/-- Corrects every collapsed entry and counts the corrections. The bound
and the multiplier of an entry are read only if the entry is corrected,
and only then must they exist. -/
def safeguard (mu move : α) : List α → List α → List α → Checked α (List α × Nat)
  | [], _, _ => .ok ([], 0)
  | slack :: slacks, bounds, multipliers => do
    let (entry, count) ←
      -- An undefined entry fails the comparison and is corrected as well.
      if least mu ≤ slack then .ok (slack, 0)
      else match bounds, multipliers with
        | bound :: _, multiplier :: _ => .ok (lift mu move slack bound multiplier, 1)
        | _, _ => .error .misaligned
    let (entries, total) ← safeguard mu move slacks bounds.tail multipliers.tail
    return (entry :: entries, count + total)

end InteriorPoint.Slack
