import InteriorPoint.Proofs.Pool

/-!
# `InteriorPoint.Proofs.Drawn`: identities drawn in a row

Completing a draft or moving a point creates several things, one after
the other: the point draws its identity first, and those of its
components that are new draw theirs in the order in which components are
checked. `Drawn` says that identities were drawn in this order between
two supplies, and `drawn_build` and `drawn_takeStep` list what the two
operations draw. The components that are not in the list are the vectors
that the draft was given, and those that a step of length zero leaves
alone.
-/

set_option autoImplicit false

namespace InteriorPoint

open Drawing

variable {α : Type}

/-- The first identity was drawn before the second. -/
def Tag.Before (a b : Tag) : Prop :=
  a.number < b.number

/-- The identities were drawn in this order between the two supplies. -/
structure Drawn (supply : Supply) (tags : List Tag) (supply' : Supply) : Prop where
  ordered : tags.Pairwise Tag.Before
  bounds : ∀ tag ∈ tags, supply.next ≤ tag.number ∧ tag.number < supply'.next
  forward : supply.next ≤ supply'.next

namespace Drawn

/-- Nothing was drawn. -/
theorem nil (supply : Supply) : Drawn supply [] supply :=
  ⟨.nil, fun _ hmem => absurd hmem List.not_mem_nil, Nat.le_refl _⟩

/-- The supply may have moved on since. -/
theorem later {supply supply' supply'' : Supply} {tags : List Tag} (h : Drawn supply tags supply')
    (hlater : supply'.next ≤ supply''.next) : Drawn supply tags supply'' := by
  refine ⟨h.ordered, fun tag hmem => ?_, Nat.le_trans h.forward hlater⟩
  have hbounds := h.bounds tag hmem
  omega

/-- One identity was drawn, between the two supplies. -/
theorem singleton {supply supply' : Supply} {tag : Tag} (hold : supply.next ≤ tag.number)
    (hnew : tag.number < supply'.next) : Drawn supply [tag] supply' := by
  refine ⟨List.pairwise_singleton _ _, fun other hmem => ?_, by omega⟩
  rw [List.mem_singleton.1 hmem]
  exact ⟨hold, hnew⟩

/-- What was drawn before and what was drawn after, together. -/
theorem append {supply₁ supply₂ supply₃ : Supply} {tags tags' : List Tag}
    (h : Drawn supply₁ tags supply₂) (h' : Drawn supply₂ tags' supply₃) :
    Drawn supply₁ (tags ++ tags') supply₃ := by
  have hle := h.forward
  have hle' := h'.forward
  constructor
  case ordered =>
    -- What was drawn first is below the supply in the middle.
    refine List.pairwise_append.2 ⟨h.ordered, h'.ordered, fun a ha b hb => ?_⟩
    have hbefore := (h.bounds a ha).2
    have hafter := (h'.bounds b hb).1
    exact Nat.lt_of_lt_of_le hbefore hafter
  case bounds =>
    intro tag hmem
    rcases List.mem_append.1 hmem with hfirst | hsecond
    · have hbounds := h.bounds tag hfirst
      omega
    · have hbounds := h'.bounds tag hsecond
      omega
  case forward => exact Nat.le_trans hle hle'

end Drawn

/-- A fresh identity is the next one. -/
theorem drawn_fresh {supply supply' : Supply} {tag : Tag}
    (hrun : Tag.fresh supply = (tag, supply')) :
    Drawn supply [tag] supply' := by
  cases hrun
  exact .singleton (Nat.le_refl _) (Nat.lt_succ_self _)

/-- A new vector draws one identity for itself, beside that of its
storage. -/
theorem drawn_ofList {entries : List α} {v : TaggedVector α} {supply supply' : Supply}
    (hrun : TaggedVector.ofList entries supply = (v, supply')) : Drawn supply [v.tag] supply' := by
  rw [Pool.ofList_eq] at hrun
  cases hrun
  exact .singleton (Nat.le_refl _) (Nat.lt_add_of_pos_right Nat.two_pos)

namespace Iterate

/-- The identities of some components, in the order of their creation. -/
def tags (iterate : Iterate α) (fresh : Component → Bool) : List Tag :=
  (Component.all.filter fresh).map fun part => (iterate.component part).tag

/-- The identities component by component, where a component that is kept
contributes none. -/
theorem tags_eq (iterate : Iterate α) (fresh : Component → Bool) :
    iterate.tags fresh =
      let tag part := if fresh part then [(iterate.component part).tag] else []
      tag .x ++ (tag .s ++ (tag .yC ++ (tag .yD ++ (tag (.multiplier .xLower)
        ++ (tag (.multiplier .xUpper) ++ (tag (.multiplier .sLower)
        ++ tag (.multiplier .sUpper))))))) := by
  -- To filter and to map is to collect one identity or none for each part.
  have hflat : ∀ parts : List Component,
      ((parts.filter fresh).map fun part => (iterate.component part).tag)
        = parts.flatMap fun part => if fresh part then [(iterate.component part).tag] else [] := by
    intro parts
    induction parts with
    | nil => rfl
    | cons part rest ih =>
        rw [List.flatMap_cons, ← ih]
        by_cases hfresh : fresh part = true <;> simp [hfresh]
  rw [tags, hflat]
  simp [Component.all, Family.all]

end Iterate

section
variable [Scalar α]

/-- The component is computed anew in a step of these lengths. -/
def Component.moves (primal dual : α) (part : Component) : Bool :=
  !decide (Scalar.IsZero (part.stepLength primal dual))

/-- A component that moves draws its identity. One that does not is kept,
and nothing is drawn. -/
theorem drawn_moveComponent {alpha : α} {base step v : TaggedVector α} {supply supply' : Supply}
    (hrun : (Iterate.moveComponent alpha base step).run supply = (.ok v, supply')) :
    Drawn supply (if !decide (Scalar.IsZero alpha) then [v.tag] else []) supply'
      ∧ (Scalar.IsZero alpha → v = base) := by
  rcases Iterate.moveComponent_eq_ok.1 hrun with ⟨hzero, rfl, rfl⟩ | ⟨hmoves, -, hnew⟩
  · -- A component that is kept draws nothing.
    refine ⟨?_, fun _ => rfl⟩
    rw [if_neg (by simp [hzero])]
    exact .nil _
  · refine ⟨?_, fun hzero => absurd hzero hmoves⟩
    rw [if_pos (by simp [hmoves])]
    exact drawn_ofList hnew

/-- A step of a point draws the identity of the new point and then those
of the components that move. The others are kept. -/
theorem drawn_takeStep {base direction iterate : Iterate α} {primal dual : α}
    {supply supply' : Supply}
    (hrun : (base.takeStep primal dual direction).run supply = (.ok iterate, supply')) :
    Drawn supply (iterate.tag :: iterate.tags (Component.moves primal dual)) supply'
      ∧ ∀ part, Component.moves primal dual part = false →
        iterate.component part = base.component part := by
  constructor
  · -- The draws in the order of the program: the point, the vectors, the four families.
    simp only [Iterate.takeStep, PerFamily.ofFnM, run_bind_eq_ok, run_lift_eq_ok,
      run_checked_eq_ok, run_pure_eq_ok] at hrun
    obtain ⟨_, _, ⟨-, rfl⟩, tag, _, htag, x, _, hx, s, _, hs, yC, _, hyC, yD, _, hyD, _, _,
      ⟨xLower, _, h₁, xUpper, _, h₂, sLower, _, h₃, sUpper, _, h₄, rfl, rfl⟩, rfl, rfl⟩ := hrun
    have hx := (drawn_moveComponent hx).1
    have hs := (drawn_moveComponent hs).1
    have hyC := (drawn_moveComponent hyC).1
    have hyD := (drawn_moveComponent hyD).1
    have h₁ := (drawn_moveComponent h₁).1
    have h₂ := (drawn_moveComponent h₂).1
    have h₃ := (drawn_moveComponent h₃).1
    have h₄ := (drawn_moveComponent h₄).1
    rw [Iterate.tags_eq]
    exact (drawn_fresh htag).append (hx.append (hs.append (hyC.append (hyD.append
      (h₁.append (h₂.append (h₃.append h₄)))))))
  · intro part hkept
    obtain ⟨_, _, hmove⟩ := (Iterate.moveComponent_of_takeStep hrun).2 part
    exact (drawn_moveComponent hmove).2 (by simpa [Component.moves] using hkept)

omit [Scalar α] in
/-- What a draft was given for a component. -/
def IterateDraft.given? (draft : IterateDraft α) : Component → Option (TaggedVector α)
  | .x => some draft.x
  | .s => some draft.s
  | .yC => draft.yC
  | .yD => draft.yD
  | .multiplier family => draft.multipliers.get family

omit [Scalar α] in
/-- What a draft was given, it was given for a component. -/
theorem IterateDraft.exists_given? {draft : IterateDraft α} {v : TaggedVector α}
    (hmem : v ∈ draft.given) : ∃ part, draft.given? part = some v := by
  simp only [IterateDraft.given, List.mem_cons, List.mem_append, Option.mem_toList,
    List.mem_flatMap] at hmem
  -- The two blocks are always given, the multipliers may be.
  rcases hmem with rfl | rfl | (hyC | hyD) | ⟨family, -, hmultiplier⟩
  · exact ⟨.x, rfl⟩
  · exact ⟨.s, rfl⟩
  · exact ⟨.yC, hyC⟩
  · exact ⟨.yD, hyD⟩
  · exact ⟨.multiplier family, hmultiplier⟩

/-- A vector that was not given is drawn, and one that was given is used
as it is. -/
theorem drawn_orZeros {given : Option (TaggedVector α)} {size : Nat} {v : TaggedVector α}
    {supply supply' : Supply} (hrun : IterateDraft.orZeros given size supply = (v, supply')) :
    Drawn supply (if given.isNone then [v.tag] else []) supply'
      ∧ ∀ w, given = some w → v = w := by
  cases given with
  | none => exact ⟨drawn_ofList hrun, fun _ hsome => nomatch hsome⟩
  | some w =>
      cases hrun
      exact ⟨.nil _, fun _ hsome => Option.some.inj hsome⟩

/-- Completing a draft draws the identity of the point and then those of
the multipliers that were not given. -/
theorem drawn_build {dims : Dimensions} {draft : IterateDraft α} {iterate : Iterate α}
    {supply supply' : Supply} (hrun : (draft.build dims).run supply = (.ok iterate, supply')) :
    Drawn supply (iterate.tag :: iterate.tags fun part => (draft.given? part).isNone) supply'
      ∧ ∀ part v, draft.given? part = some v → iterate.component part = v := by
  simp only [IterateDraft.build, PerFamily.ofFnM, run_bind_eq_ok, run_lift_eq_ok,
    run_checked_eq_ok, run_pure_eq_ok] at hrun
  obtain ⟨tag, _, htag, yC, _, hyC, yD, _, hyD, _, _, ⟨xLower, _, h₁, xUpper, _, h₂, sLower, _, h₃,
    sUpper, _, h₄, rfl, rfl⟩, _, _, ⟨-, rfl⟩, rfl, rfl⟩ := hrun
  have hyC := drawn_orZeros hyC
  have hyD := drawn_orZeros hyD
  have h₁ := drawn_orZeros h₁
  have h₂ := drawn_orZeros h₂
  have h₃ := drawn_orZeros h₃
  have h₄ := drawn_orZeros h₄
  constructor
  · rw [Iterate.tags_eq]
    exact (drawn_fresh htag).append (hyC.1.append (hyD.1.append (h₁.1.append (h₂.1.append
      (h₃.1.append h₄.1)))))
  · -- The primal vectors are always given. The others are kept if they were.
    intro part v hgiven
    rcases part with _ | _ | _ | _ | ⟨_ | _, _ | _⟩
    · exact Option.some.inj hgiven
    · exact Option.some.inj hgiven
    · exact hyC.2 v hgiven
    · exact hyD.2 v hgiven
    · exact h₁.2 v hgiven
    · exact h₂.2 v hgiven
    · exact h₃.2 v hgiven
    · exact h₄.2 v hgiven

/-- Either way the supply does not go back. -/
theorem forward_orZeros (given : Option (TaggedVector α)) (size : Nat) :
    Forward (liftM (IterateDraft.orZeros given size) :
      ExceptT (Error α) Drawing (TaggedVector α)) := by
  cases given with
  | none => exact forward_ofList _
  | some v => exact forward_pure v

/-- Completing a draft never takes an identity back, even if it is
refused. -/
theorem forward_build (dims : Dimensions) (draft : IterateDraft α) :
    Forward (draft.build dims) := by
  have hzeros := forward_orZeros (α := α)
  refine forward_bind forward_fresh fun _ => forward_bind (hzeros _ _) fun _ =>
    forward_bind (hzeros _ _) fun _ => forward_bind ?_ fun _ =>
    forward_bind (forward_checked _) fun _ => forward_pure _
  exact forward_bind (hzeros _ _) fun _ => forward_bind (hzeros _ _) fun _ =>
    forward_bind (hzeros _ _) fun _ => forward_bind (hzeros _ _) fun _ => forward_pure _

end

end InteriorPoint
