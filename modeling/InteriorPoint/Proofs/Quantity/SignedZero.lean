import InteriorPoint.Proofs.Linear.SignedZero
import InteriorPoint.Proofs.Quantity.Parts

/-!
# `InteriorPoint.Proofs.Quantity.SignedZero`: quantities that show the sign of a zero

A barrier parameter of zero may carry a sign. Keys drop it, formulas read
it, so a result that was stored for one of the two zeros is also given out
for the other. Only four quantities can tell (`Slot.Signed`): `mu` is a
factor or a summand of theirs, and what they return may have zeros of the
other sign. All the others compare `mu`, or pass it to a norm or to the
correction of slacks, where the sign is lost.

`Slot.Alike` is what can be said of two results of one slot. A formula
that is given such results in place of one another goes the same way and
returns such results (`Program.Alike`, `Quantity.formula_alike`). There is
one clause per constructor of a program, and a program that asks for none
of the four quantities is like itself at once (`Program.Alike.of_within`).
The derivative along the search direction is the one formula that asks for
some of them.
-/

set_option autoImplicit false

namespace InteriorPoint

variable {α : Type} [Scalar α]

/-- Results that are the same up to the signs of zeros. -/
def Carrier.Alike : {k : Kind} → Carrier α k → Carrier α k → Prop
  | .scalar, a, b => Scalar.Alike a b
  | .vector, u, v => List.Forall₂ Scalar.Alike u v
  | .matrix, A, B => A = B
  | .operator, A, B => A = B

namespace Carrier.Alike

/-- A result is like itself. -/
theorem refl : {k : Kind} → (a : Carrier α k) → Carrier.Alike a a
  | .scalar, a => Scalar.Alike.refl a
  | .vector, v => Linear.alike_refl v
  | .matrix, _ | .operator, _ => rfl

/-- Likeness does not depend on the order of the two results. -/
theorem symm : {k : Kind} → {a b : Carrier α k} → Carrier.Alike a b → Carrier.Alike b a
  | .scalar, _, _, h => Scalar.Alike.symm h
  | .vector, _, _, h => Linear.alike_symm h
  | .matrix, _, _, h | .operator, _, _, h => Eq.symm h

/-- Likeness carries over from one pair to the next. -/
theorem trans : {k : Kind} → {a b c : Carrier α k} → Carrier.Alike a b → Carrier.Alike b c →
    Carrier.Alike a c
  | .scalar, _, _, _, h, h' => Scalar.Alike.trans h h'
  | .vector, _, _, _, h, h' => Linear.alike_trans h h'
  | .matrix, _, _, _, h, h' | .operator, _, _, _, h, h' => Eq.trans h h'

end Carrier.Alike

namespace Slot

variable {k : Kind}

/-- The quantities that show the sign of a barrier parameter of zero. -/
def Signed : {k : Kind} → Slot k → Prop
  | _, barrierObjective _ | _, barrierGradient _ | _, directionalDerivative
  | _, relaxedComplementarity _ => True
  | _, _ => False

/-- Two results of a slot that may stand for one another: they are equal,
but the quantities that show the sign of `mu` may differ in the signs of
zeros. -/
def Alike (slot : Slot k) (a b : Carrier α k) : Prop :=
  a = b ∨ slot.Signed ∧ Carrier.Alike a b

namespace Alike

variable {slot : Slot k} {a b c : Carrier α k}

/-- A result may stand for itself. -/
theorem refl (slot : Slot k) (a : Carrier α k) : slot.Alike a a :=
  Or.inl rfl

/-- Either result may stand for the other. -/
theorem symm (h : slot.Alike a b) : slot.Alike b a :=
  h.imp Eq.symm fun h => ⟨h.1, h.2.symm⟩

/-- A result may stand for what stands for it. -/
theorem trans (h : slot.Alike a b) (h' : slot.Alike b c) : slot.Alike a c := by
  rcases h with rfl | ⟨hsigned, h⟩
  · exact h'
  · rcases h' with rfl | ⟨-, h'⟩
    · exact Or.inr ⟨hsigned, h⟩
    · exact Or.inr ⟨hsigned, h.trans h'⟩

/-- Where the sign does not show, the results are equal. -/
theorem eq (h : slot.Alike a b) (hslot : ¬ slot.Signed) : a = b :=
  h.resolve_right fun h => hslot h.1

/-- In any case the results are the same up to the signs of zeros. -/
theorem carrier (h : slot.Alike a b) : Carrier.Alike a b := by
  rcases h with rfl | ⟨-, h⟩
  · exact .refl a
  · exact h

/-- The caches of both points of a quantity are of one sort. -/
theorem of_counterpart {other : Slot k} (hother : slot.counterpart? = some other)
    (h : other.Alike a b) : slot.Alike a b := by
  cases slot <;> cases hother <;> exact h

/-- Equal values, or one refusal for both. -/
theorem rel_of_eq (slot : Slot k) {x y : Checked α (Carrier α k)} (h : x = y) :
    Checked.Rel slot.Alike x y := by
  rw [h]
  exact .refl (refl slot) y

/-- Values of a quantity that shows the sign. -/
theorem rel_of_signed (slot : Slot k) (hslot : slot.Signed) {x y : Checked α (Carrier α k)}
    (h : Checked.Rel Carrier.Alike x y) : Checked.Rel slot.Alike x y :=
  h.mono fun _ _ h => Or.inr ⟨hslot, h⟩

end Alike

/-- A result of the slot can only stand for itself. -/
def Rigid (α : Type) [Scalar α] (slot : Slot k) : Prop :=
  ∀ a b : Carrier α k, slot.Alike a b → a = b

namespace Rigid

/-- Where the sign of `mu` does not show, a result stands for itself
only. -/
theorem of_not_signed {slot : Slot k} (h : ¬ slot.Signed) : slot.Rigid α :=
  fun _ _ halike => halike.eq h

/-- In exact arithmetic there is one zero, so every result stands for
itself only. -/
theorem exact {K : Type} [Field K] [LinearOrder K] [ExactFunctions K] (slot : Slot k) :
    slot.Rigid K := by
  have hcarrier : ∀ {k : Kind} {a b : Carrier K k}, Carrier.Alike a b → a = b := by
    intro k a b h
    cases k with
    | scalar => exact Scalar.alike_iff_eq.1 h
    | vector => exact List.forall₂_eq_eq_eq ▸ h.imp fun _ _ => Scalar.alike_iff_eq.1
    | matrix => exact h
    | operator => exact h
  exact fun a b halike => hcarrier halike.carrier

/-- Where results stand for themselves only, the relation is equality. -/
theorem eq_of_rel {slot : Slot k} (h : slot.Rigid α) {x y : Checked α (Carrier α k)}
    (hrel : Checked.Rel slot.Alike x y) : x = y :=
  (hrel.mono h).eq

end Rigid

end Slot

/-! ### Programs -/

namespace Program

variable {β γ δ ε : Type} {bound : Nat}

/-- Two programs that ask for the same quantities and report the same
events, as long as the answers they are given may stand for one another,
and whose results are in the relation. -/
inductive Alike (R : β → γ → Prop) : Program α bound β → Program α bound γ → Prop where
  | done {value : β} {value' : γ} (h : R value value') : Alike R (.done value) (.done value')
  | fail (error : Error α) : Alike R (.fail error) (.fail error)
  | report (event : Event α) {next : Program α bound β} {next' : Program α bound γ}
      (h : Alike R next next') : Alike R (.report event next) (.report event next')
  | ask {k : Kind} (part : Quantity α k) (lower : part.rank < bound)
      {next : Carrier α k → Program α bound β} {next' : Carrier α k → Program α bound γ}
      (h : ∀ a b, part.slot.Alike a b → Alike R (next a) (next' b)) :
      Alike R (.ask part lower next) (.ask part lower next')

namespace Alike

variable {R : β → γ → Prop}

/-- Two steps that are alike one after the other form alike programs. -/
theorem bind {S : δ → ε → Prop} {p : Program α bound β} {p' : Program α bound γ}
    {f : β → Program α bound δ} {f' : γ → Program α bound ε} (h : Alike R p p')
    (hstep : ∀ value value', R value value' → Alike S (f value) (f' value')) :
    Alike S (p >>= f) (p' >>= f') := by
  change Alike S (p.bind f) (p'.bind f')
  induction h with
  | done h => exact hstep _ _ h
  | fail error => exact .fail error
  | report event _ ih => exact .report event ih
  | ask part lower _ ih => exact .ask part lower fun a b hab => ih a b hab

/-- Checked results side by side. -/
theorem lift {x : Checked α β} {y : Checked α γ} (h : Checked.Rel R x y) :
    Alike R (liftM x : Program α bound β) (liftM y : Program α bound γ) := by
  cases h with
  | ok h => exact .done h
  | error error => exact .fail error

/-- Asking for one quantity on both sides. -/
theorem value {k : Kind} (part : Quantity α k) (lower : part.rank < bound) :
    Alike (β := Carrier α k) (γ := Carrier α k) part.slot.Alike (Program.value part lower)
      (Program.value part lower) :=
  .ask part lower fun _ _ h => .done h

/-- A weaker relation of the results holds as well. -/
theorem mono {S : β → γ → Prop} {p : Program α bound β} {p' : Program α bound γ}
    (h : Alike R p p') (hRS : ∀ value value', R value value' → S value value') : Alike S p p' := by
  induction h with
  | done h => exact .done (hRS _ _ h)
  | fail error => exact .fail error
  | report event _ ih => exact .report event ih
  | ask part lower _ ih => exact .ask part lower ih

/-- A program that asks for no quantity in which a sign can show is like
itself: the answers it is given are equal. -/
theorem of_within {asks : {k : Kind} → Quantity α k → Prop} {reports : Event α → Prop}
    {returns : β → Prop} {p : Program α bound β} (hp : p.Within asks reports returns)
    (hasks : ∀ {k : Kind} (part : Quantity α k), asks part → ¬ part.slot.Signed) :
    Alike Eq p p := by
  induction p with
  | done value => exact .done rfl
  | fail error => exact .fail error
  | report event next ih => exact .report event (ih hp.2)
  | ask part lower next ih =>
      refine .ask part lower fun a b hab => ?_
      -- Only the slots of signed results tell alike answers apart.
      obtain rfl := hab.eq (hasks part hp.1)
      exact ih a (hp.2 a)

end Alike

end Program

/-! ### Formulas -/

namespace Quantity

variable [LawfulZero α]

/-- A derivative along a direction is a sum of two products with the
barrier gradient, so its sign of zero is open if that of the gradient
is. -/
theorem directionalDerivative_alike (setting : Setting α) :
    Program.Alike Scalar.Alike (formula setting .directionalDerivative)
      (formula setting .directionalDerivative) := by
  have hdot : ∀ {block : Block} {g g' : List α} (v : List α),
      (barrierGradient (α := α) block).slot.Alike g g' →
        Checked.Rel Scalar.Alike (Linear.dot g v) (Linear.dot g' v) :=
    fun v h => Linear.dot_alike h.carrier (Linear.alike_refl v)
  refine .bind (.lift (.refl (R := Eq) (fun _ => rfl) _)) ?_
  rintro direction _ rfl
  -- The two gradients may be told apart, and the rest carries that through.
  refine .bind (.value _ _) fun xGradient xGradient' hx => ?_
  refine .bind (.value _ _) fun sGradient sGradient' hs => ?_
  refine .bind (.lift (hdot _ hx)) fun xPart xPart' hxPart => ?_
  refine .bind (.lift (hdot _ hs)) fun sPart sPart' hsPart => ?_
  exact .done (LawfulZero.add_alike hxPart hsPart)

omit [LawfulZero α] in
/-- No other quantity has a part in which a sign shows. -/
theorem not_signed_of_mem_parts (setting : Setting α) {k : Kind} (q : Quantity α k)
    (hq : (⟨k, q⟩ : Sigma (Quantity α)) ≠ ⟨_, .directionalDerivative⟩) :
    ∀ part ∈ q.parts setting, ¬ part.2.slot.Signed := by
  cases q
  case directionalDerivative => exact absurd rfl hq
  case barrierGradient block => cases block <;> simp [parts, slot, Slot.Signed]
  case lagrangianGradient block => cases block <;> simp [parts, slot, Slot.Signed]
  case meanComplementarity point =>
    by_cases hcount : setting.dims.boundCount = 0 <;> simp [parts, hcount, slot, Slot.Signed]
  all_goals simp [parts, errorParts, slot, Slot.Signed]

/-- A formula that is given results in place of one another goes the same
way and returns results that may stand for one another. -/
theorem formula_alike (setting : Setting α) {k : Kind} (q : Quantity α k) :
    Program.Alike q.slot.Alike (q.formula setting) (q.formula setting) := by
  by_cases hq : (⟨k, q⟩ : Sigma (Quantity α)) = ⟨_, .directionalDerivative⟩
  · cases hq
    exact (directionalDerivative_alike setting).mono fun _ _ h => Or.inr ⟨trivial, h⟩
  · -- The parts are answered in one way only.
    have hformula := Program.Alike.of_within (q.formula_within setting)
      fun part hpart => not_signed_of_mem_parts setting q hq ⟨_, part⟩ hpart
    exact hformula.mono fun _ _ h => Or.inl h

end Quantity

end InteriorPoint
