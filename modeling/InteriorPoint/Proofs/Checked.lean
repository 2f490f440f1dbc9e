import InteriorPoint.Identity
import InteriorPoint.Error

/-!
# `InteriorPoint.Proofs.Checked`: computations that may be refused

When a chain of checked steps succeeds, every step has succeeded. The
lemmas `…_eq_ok` say this for plain results (`Checked`) and for results
that draw identities on the way (`Drawing`), and `simp` takes a chain
apart with them. When it fails, one of its steps has failed, and the
lemmas `…_eq_error` lead there.

Two computations are compared by `Checked.Rel`: both give results in a
given relation, or both are refused for the same reason. Chains whose
steps are related one by one are related (`Checked.Rel.bind`).
-/

set_option autoImplicit false

namespace InteriorPoint

namespace Checked

variable {α β γ : Type}

/-- A result is passed on to the next step. -/
@[simp]
theorem ok_bind (value : β) (f : β → Checked α γ) : (Except.ok value >>= f) = f value :=
  rfl

/-- After a refusal the next step is not taken. -/
@[simp]
theorem error_bind (error : Error α) (f : β → Checked α γ) :
    ((Except.error error : Checked α β) >>= f) = .error error :=
  rfl

/-- The image of a result. -/
@[simp]
theorem map_ok (f : β → γ) (value : β) : f <$> (Except.ok value : Checked α β) = .ok (f value) :=
  rfl

/-- A chain of two steps gives a result exactly if the first step does and
the second does on it. -/
theorem bind_eq_ok {x : Checked α β} {f : β → Checked α γ} {result : γ} :
    (x >>= f) = .ok result ↔ ∃ value, x = .ok value ∧ f value = .ok result := by
  cases x with
  -- A refusal of the first step has no result to go on with.
  | error error =>
      constructor
      · intro h
        cases h
      · rintro ⟨_, h, -⟩
        cases h
  | ok value => simp

/-- A check followed by something else. -/
theorem check_bind_eq_ok {check : Checked α Unit} {next : Unit → Checked α β} {result : β} :
    (check >>= next) = .ok result ↔ check = .ok () ∧ next () = .ok result := by
  rw [bind_eq_ok]
  exact ⟨fun ⟨_, hcheck, hnext⟩ => ⟨hcheck, hnext⟩, fun ⟨hcheck, hnext⟩ => ⟨(), hcheck, hnext⟩⟩

/-- A step that only returns its argument returns that and nothing else.
-/
theorem pure_eq_ok {value result : β} :
    (pure value : Checked α β) = .ok result ↔ value = result := by
  change Except.ok value = Except.ok result ↔ _
  simp

/-- A chain is refused by its first step, or by the second one on the
result of the first. -/
theorem bind_eq_error {x : Checked α β} {f : β → Checked α γ} {error : Error α} :
    (x >>= f) = .error error
      ↔ x = .error error ∨ ∃ value, x = .ok value ∧ f value = .error error := by
  cases x with
  | error first =>
      constructor
      · intro h
        cases h
        exact Or.inl rfl
      · -- A computation that has failed has no value to go on with.
        rintro (h | ⟨_, h, -⟩)
        · cases h
          rfl
        · cases h
  | ok value => simp

/-- A step that only returns its argument is not refused. -/
theorem pure_ne_error {value : β} {error : Error α} :
    (pure value : Checked α β) ≠ .error error :=
  fun h => nomatch h

/-- A check of every entry of a list passes if each of them does. -/
theorem forM_eq_ok (entries : List β) (check : β → Checked α Unit) :
    entries.forM check = .ok () ↔ ∀ entry ∈ entries, check entry = .ok () := by
  induction entries with
  | nil => exact ⟨fun _ _ hmem => absurd hmem List.not_mem_nil, fun _ => rfl⟩
  | cons first rest ih =>
      rw [List.forall_mem_cons, ← ih]
      -- The first check is a step of its own, and the rest is covered by the induction.
      change (check first >>= fun _ => rest.forM check) = .ok () ↔ _
      rw [bind_eq_ok]
      constructor
      · rintro ⟨_, hfirst, hrest⟩
        exact ⟨hfirst, hrest⟩
      · rintro ⟨hfirst, hrest⟩
        exact ⟨(), hfirst, hrest⟩

/-- It fails at an entry that does not pass. -/
theorem exists_of_forM_eq_error {entries : List β} {check : β → Checked α Unit} {error : Error α}
    (h : entries.forM check = .error error) : ∃ entry ∈ entries, check entry = .error error := by
  induction entries with
  | nil => cases h
  | cons first rest ih =>
      -- Either the first entry does not pass or one of the rest does not.
      rcases bind_eq_error.1 h with hfirst | ⟨_, -, hrest⟩
      · exact ⟨first, List.mem_cons_self, hfirst⟩
      · obtain ⟨entry, hmem, hentry⟩ := ih hrest
        exact ⟨entry, List.mem_cons_of_mem _ hmem, hentry⟩

/-! ### Two computations side by side -/

/-- Both computations give results in the relation, or both are refused
for one reason. -/
inductive Rel (R : β → γ → Prop) : Checked α β → Checked α γ → Prop where
  | ok {value : β} {value' : γ} (h : R value value') : Rel R (.ok value) (.ok value')
  | error (error : Error α) : Rel R (.error error) (.error error)

namespace Rel

variable {δ ε : Type} {R : β → γ → Prop}

/-- A computation is related to itself if every result is. -/
theorem refl {R : β → β → Prop} (hR : ∀ value, R value value) (x : Checked α β) : Rel R x x := by
  cases x with
  | error error => exact .error error
  | ok value => exact .ok (hR value)

/-- Results related by equality are the same computation. -/
theorem eq {x y : Checked α β} (h : Rel Eq x y) : x = y := by
  cases h with
  | ok h => rw [h]
  | error => rfl

/-- The order of the two computations is of no account, up to that of the
relation. -/
theorem symm {x : Checked α β} {y : Checked α γ} (h : Rel R x y) :
    Rel (fun value' value => R value value') y x := by
  cases h with
  | ok h => exact .ok h
  | error error => exact .error error

/-- A weaker relation holds as well. -/
theorem mono {S : β → γ → Prop} {x : Checked α β} {y : Checked α γ} (h : Rel R x y)
    (hRS : ∀ value value', R value value' → S value value') : Rel S x y := by
  cases h with
  | ok h => exact .ok (hRS _ _ h)
  | error error => exact .error error

/-- Two relations one after the other. -/
theorem trans {S : γ → δ → Prop} {T : β → δ → Prop} {x : Checked α β} {y : Checked α γ}
    {z : Checked α δ} (h : Rel R x y) (h' : Rel S y z)
    (hRST : ∀ a b c, R a b → S b c → T a c) : Rel T x z := by
  cases h with
  | ok h =>
      -- Alike results are both values or both the same refusal.
      cases h' with
      | ok h' => exact .ok (hRST _ _ _ h h')
  | error error =>
      cases h' with
      | error => exact .error error

/-- Two steps that are related one after the other form a related
chain. -/
theorem bind {S : δ → ε → Prop} {x : Checked α β} {y : Checked α γ} {f : β → Checked α δ}
    {g : γ → Checked α ε} (h : Rel R x y)
    (hstep : ∀ value value', R value value' → Rel S (f value) (g value')) :
    Rel S (x >>= f) (y >>= g) := by
  cases h with
  | ok h => exact hstep _ _ h
  | error error => exact .error error

/-- Where one computation gives a result, the other gives a related
one. -/
theorem exists_ok {value : β} {y : Checked α γ} (h : Rel R (.ok value) y) :
    ∃ value', y = .ok value' ∧ R value value' := by
  cases h with
  | ok h => exact ⟨_, rfl, h⟩

/-- Where one computation is refused, so is the other. -/
theorem eq_error {error : Error α} {y : Checked α γ} (h : Rel R (.error error) y) :
    y = .error error := by
  cases h with
  | error => rfl

end Rel

end Checked

/-- Only sizes that differ are refused, and the error names them both. -/
theorem ensureSize_eq_error {α : Type} {context : String} {expected found : Nat}
    {error : Error α} :
    ensureSize context expected found = .error error
      ↔ expected ≠ found ∧ error = .dimensionMismatch context expected found := by
  unfold ensureSize
  split <;> simp [*, eq_comm]

/-- Only equal sizes are accepted. -/
theorem ensureSize_eq_ok {α : Type} {context : String} {expected found : Nat} :
    (ensureSize context expected found : Checked α Unit) = .ok () ↔ expected = found := by
  unfold ensureSize
  split <;> simp [*]

namespace Drawing

variable {α β γ : Type}

/-- A computation that may be refused goes on only if it is not. -/
theorem run_bind (x : ExceptT (Error α) Drawing β) (f : β → ExceptT (Error α) Drawing γ)
    (supply : Supply) :
    (x >>= f).run supply
      = match x.run supply with
        | (.ok value, supply') => (f value).run supply'
        | (.error error, supply') => (.error error, supply') := by
  change (ExceptT.bindCont f (x.run supply).1) (x.run supply).2 = _
  rcases x.run supply with ⟨error | value, supply'⟩ <;> rfl

/-- A computation that can be refused succeeds exactly if both of its
parts do, one after the other. -/
@[simp]
theorem run_bind_eq_ok {x : ExceptT (Error α) Drawing β} {f : β → ExceptT (Error α) Drawing γ}
    {supply supply' : Supply} {value : γ} :
    (x >>= f).run supply = (.ok value, supply')
      ↔ ∃ first middle, x.run supply = (.ok first, middle)
          ∧ (f first).run middle = (.ok value, supply') := by
  -- By definition the second part continues from the result and the supply of the first.
  change (ExceptT.bindCont f (x.run supply).1) (x.run supply).2 = _ ↔ _
  rcases x.run supply with ⟨error | first, middle⟩
  · constructor
    · intro h
      cases h
    · rintro ⟨_, _, hx, -⟩
      cases hx
  · constructor
    · intro h
      exact ⟨first, middle, rfl, h⟩
    · rintro ⟨_, _, hx, hf⟩
      cases hx
      exact hf

/-- Returning a result draws nothing. -/
@[simp]
theorem run_pure_eq_ok {supply supply' : Supply} {value result : β} :
    (pure value : ExceptT (Error α) Drawing β).run supply = (.ok result, supply')
      ↔ value = result ∧ supply = supply' := by
  change ((Except.ok value, supply) : Except (Error α) β × Supply) = _ ↔ _
  simp

/-- Drawing an identity cannot be refused. -/
@[simp]
theorem run_lift_eq_ok {draw : Drawing β} {supply supply' : Supply} {value : β} :
    (liftM draw : ExceptT (Error α) Drawing β).run supply = (.ok value, supply')
      ↔ draw supply = (value, supply') := by
  change ((Except.ok (draw supply).1, (draw supply).2) : Except (Error α) β × Supply) = _ ↔ _
  rw [Prod.mk.injEq, Except.ok.injEq, Prod.ext_iff]

/-- A check draws nothing. -/
@[simp]
theorem run_checked_eq_ok {checked : Checked α β} {supply supply' : Supply} {value : β} :
    (liftM checked : ExceptT (Error α) Drawing β).run supply = (.ok value, supply')
      ↔ checked = .ok value ∧ supply = supply' := by
  cases checked with
  | error error =>
      change ((Except.error error, supply) : Except (Error α) β × Supply) = _ ↔ _
      simp
  | ok result =>
      change ((Except.ok result, supply) : Except (Error α) β × Supply) = _ ↔ _
      simp

/-! ### The supply only moves forward -/

/-- Whatever comes out, the supply afterwards is not an earlier one. -/
def Forward (x : ExceptT (Error α) Drawing β) : Prop :=
  ∀ supply : Supply, supply.next ≤ (x.run supply).2.next

/-- Two computations one after the other move the supply forward, also
where the first one is refused. -/
theorem forward_bind {x : ExceptT (Error α) Drawing β} {f : β → ExceptT (Error α) Drawing γ}
    (hx : Forward x) (hf : ∀ value, Forward (f value)) : Forward (x >>= f) := by
  intro supply
  have hfirst := hx supply
  change _ ≤ (ExceptT.bindCont f (x.run supply).1 (x.run supply).2).2.next
  -- Where the first part is refused, the second one has not moved the supply.
  rcases hrun : x.run supply with ⟨error | value, middle⟩ <;> rw [hrun] at hfirst
  · exact hfirst
  · exact Nat.le_trans hfirst (hf value middle)

/-- Returning a result leaves the supply where it is. -/
theorem forward_pure (value : β) : Forward (pure value : ExceptT (Error α) Drawing β) :=
  fun _ => Nat.le_refl _

/-- So does a check, whatever comes out of it. -/
theorem forward_checked (checked : Checked α β) :
    Forward (liftM checked : ExceptT (Error α) Drawing β) :=
  fun _ => Nat.le_refl _

/-- A fresh tag moves the supply by one. -/
theorem forward_fresh : Forward (liftM Tag.fresh : ExceptT (Error α) Drawing Tag) :=
  fun supply => Nat.le_succ supply.next

/-- A new vector draws a tag and a storage. -/
theorem forward_ofList {δ : Type} (entries : List δ) :
    Forward (liftM (TaggedVector.ofList entries) : ExceptT (Error α) Drawing (TaggedVector δ)) :=
  fun supply => Nat.le_add_right supply.next 2

end Drawing

end InteriorPoint
