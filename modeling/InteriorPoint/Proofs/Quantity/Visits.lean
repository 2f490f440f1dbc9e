import InteriorPoint.Proofs.Quantity.Requests
import InteriorPoint.Proofs.Quantity.Sizes

/-!
# `InteriorPoint.Proofs.Quantity.Visits`: the slacks that a value is computed from

Computing a quantity anew computes the slacks that its formula asks for,
directly or through other quantities (`Setting.Visits`). Where a formula
fails it does not come to all of them, so what is visited depends on the
values on the way.

Two bounds on it need no values. A quantity visits only slacks at its own
point and of the families that `Setting.UsesSlack` lists for it
(`Visits.usesSlack`). If the quantity has a value, it visits all of them
(`visits_of_usesSlack`), because then every part that its formula asks
for on all paths (`Program.Requires`) was asked for.

A slack is determined by a vector of primal variables and one of
multipliers (`Iterate.slackPair`). Quantities that can meet in a cache
under one key use slacks of the same pairs (`slackPair_of_key_eq`), so a
stored result speaks for the slacks that it was computed from.
-/

set_option autoImplicit false

namespace InteriorPoint

variable {α β γ : Type} {bound : Nat}

namespace Program

/-- On every path to a result, whatever the answers are, the program asks
for the quantity. -/
def Requires (part : Sigma (Quantity α)) : Program α bound β → Prop
  | done _ => False
  | fail _ => True
  | report _ next => next.Requires part
  | ask quantity _ next => ⟨_, quantity⟩ = part ∨ ∀ value, (next value).Requires part

/-- What the first of two programs requires, both require. -/
theorem Requires.bind_left {part : Sigma (Quantity α)} {p : Program α bound β}
    (h : p.Requires part) (f : β → Program α bound γ) : (p >>= f).Requires part := by
  change (p.bind f).Requires part
  induction p with
  | done value => exact h.elim
  | fail error => trivial
  | report event next ih => exact ih h
  | ask quantity lower next ih => exact h.imp_right fun hnext value => ih value (hnext value)

/-- What the second requires, whatever the first returns, both require. -/
theorem requires_bind_right {part : Sigma (Quantity α)} (p : Program α bound β)
    {f : β → Program α bound γ} (h : ∀ value, (f value).Requires part) :
    (p >>= f).Requires part := by
  change (p.bind f).Requires part
  induction p with
  | done value => exact h value
  | fail error => trivial
  | report event next ih => exact ih
  | ask quantity lower next ih => exact Or.inr ih

/-- What the step for an entry of the list requires, the repetition
requires. -/
theorem requires_foldlM {part : Sigma (Quantity α)} {δ : Type} {f : β → δ → Program α bound β}
    {list : List δ} {entry : δ} (hmem : entry ∈ list)
    (h : ∀ total, (f total entry).Requires part) (start : β) :
    (list.foldlM f start).Requires part := by
  -- The entry comes first or later, and the steps before it do not matter.
  induction list generalizing start with
  | nil => cases hmem
  | cons head rest ih =>
      rw [List.foldlM_cons]
      rcases List.mem_cons.1 hmem with rfl | hrest
      · exact (h start).bind_left _
      · exact requires_bind_right _ (ih hrest)

/-- A request requires its quantity. -/
theorem requires_value {k : Kind} (quantity : Quantity α k) (lower : quantity.rank < bound) :
    (value quantity lower).Requires ⟨k, quantity⟩ :=
  Or.inl rfl

/-- The requests for all slacks require each of them. -/
theorem requires_slacks (point : Point) (lower : 0 < bound) (family : Family) :
    (Quantity.slacks (α := α) point lower).Requires ⟨.vector, .slack point family⟩ := by
  rcases family with ⟨_ | _, _ | _⟩
  · exact Or.inl rfl
  · exact Or.inr fun _ => Or.inl rfl
  · exact Or.inr fun _ => Or.inr fun _ => Or.inl rfl
  · exact Or.inr fun _ => Or.inr fun _ => Or.inr fun _ => Or.inl rfl

/-- The requests for all complementarity products require each of them. -/
theorem requires_complementarities (lower : 1 < bound) (family : Family) :
    (Quantity.complementarities (α := α) lower).Requires ⟨.vector, .complementarity family⟩ := by
  rcases family with ⟨_ | _, _ | _⟩
  · exact Or.inl rfl
  · exact Or.inr fun _ => Or.inl rfl
  · exact Or.inr fun _ => Or.inr fun _ => Or.inl rfl
  · exact Or.inr fun _ => Or.inr fun _ => Or.inr fun _ => Or.inl rfl

end Program

/-- The vectors that determine a slack of an iterate. -/
def Iterate.slackPair (iterate : Iterate α) (family : Family) : TaggedVector α × TaggedVector α :=
  (iterate.primal family.block, iterate.multipliers.get family)

namespace Setting

/-- The quantity is computed from the slack of a family at its point. -/
def UsesSlack (setting : Setting α) (family : Family) : {k : Kind} → Quantity α k → Prop
  | _, .slack _ own | _, .complementarity own | _, .relaxedComplementarity own => own = family
  | _, .barrierGradient block | _, .primalDualScaling block => block = family.block
  | _, .barrierObjective _ | _, .directionalDerivative | _, .complementarityNorm _ _
  | _, .centralityMeasure | _, .problemError | _, .barrierError | _, .meanError
  | _, .meanBarrierError | _, .primalStepLimit _ _ _ | _, .slackStepLimit _ _ => True
  | _, .meanComplementarity _ => setting.dims.boundCount ≠ 0
  | _, _ => False

variable [Scalar α]

/-- Executed with every request answered by its value, the program asks
for the quantity. -/
def Asks (setting : Setting α) (part : Sigma (Quantity α)) : Program α bound β → Prop
  | .done _ | .fail _ => False
  | .report _ next => setting.Asks part next
  | .ask quantity _ next => ⟨_, quantity⟩ = part
    ∨ ∃ value, setting.value quantity = .ok value ∧ setting.Asks part (next value)

/-- Computing the quantity anew computes the slack of a family at a
point. -/
inductive Visits (setting : Setting α) (point : Point) (family : Family) :
    {k : Kind} → Quantity α k → Prop where
  | slack (hkey : ∃ key, setting.key (.slack point family) = .ok key) :
      Visits setting point family (.slack point family)
  | part {k k' : Kind} {q : Quantity α k} {part : Quantity α k'}
      (hkey : ∃ key, setting.key q = .ok key) (hasks : setting.Asks ⟨k', part⟩ (q.formula setting))
      (hpart : Visits setting point family part) : Visits setting point family q

variable {setting : Setting α}

/-- After a request that has a value the program goes on with it. -/
theorem asks_ask_of_ok {part : Sigma (Quantity α)} {k : Kind} {q : Quantity α k}
    {lower : q.rank < bound} {next : Carrier α k → Program α bound β} {value : Carrier α k}
    (h : setting.value q = .ok value) :
    setting.Asks part (.ask q lower next) ↔ ⟨k, q⟩ = part ∨ setting.Asks part (next value) := by
  simp [Asks, h]

/-- After a request that has no value the program ends. -/
theorem asks_ask_of_error {part : Sigma (Quantity α)} {k : Kind} {q : Quantity α k}
    {lower : q.rank < bound} {next : Carrier α k → Program α bound β} {error : Error α}
    (h : setting.value q = .error error) :
    setting.Asks part (.ask q lower next) ↔ ⟨k, q⟩ = part := by
  simp [Asks, h]

/-- What is asked for is within the bounds of a program. -/
theorem Asks.within {part : Sigma (Quantity α)} {p : Program α bound β}
    {asks : {k : Kind} → Quantity α k → Prop} {reports : Event α → Prop} {returns : β → Prop}
    (h : setting.Asks part p) (hp : p.Within asks reports returns) : asks part.2 := by
  induction p with
  | done value => exact h.elim
  | fail error => exact h.elim
  | report event next ih => exact ih h hp.2
  | ask quantity lower next ih =>
      rcases h with rfl | ⟨value, -, hnext⟩
      · exact hp.1
      · exact ih value hnext (hp.2 value)

/-- A program that came to a result has asked for what it requires, and
was given a value. -/
theorem asks_of_requires {part : Sigma (Quantity α)} {p : Program α bound β} {result : β}
    (h : p.Requires part) (hp : setting.eval p = .ok result) :
    setting.Asks part p ∧ ∃ value, setting.value part.2 = .ok value := by
  induction p with
  | done value => exact h.elim
  | fail error => cases hp
  | report event next ih => exact ih h hp
  | ask quantity lower next ih =>
      obtain ⟨value, hvalue, hnext⟩ := Checked.bind_eq_ok.1 hp
      -- Either it is asked for here, or on the path that the answer leads to.
      rcases h with rfl | hrequires
      · exact ⟨Or.inl rfl, value, hvalue⟩
      · obtain ⟨hasks, hpart⟩ := ih value (hrequires value) hnext
        exact ⟨Or.inr ⟨value, hvalue, hasks⟩, hpart⟩

end Setting

/-! ### The bounds on what is visited -/

section
variable [Scalar α] {setting : Setting α} {family : Family}

open Program

omit [Scalar α] in
/-- The part is at the point of the quantity and uses no slacks that the
quantity does not use. -/
def Setting.Contains (setting : Setting α) {k : Kind} (q : Quantity α k) {k' : Kind}
    (part : Quantity α k') : Prop :=
  part.point = q.point ∧ ∀ family, setting.UsesSlack family part → setting.UsesSlack family q

/-- The parts of a quantity are at its own point and use no other
slacks. -/
theorem Quantity.contains_of_mem_parts (setting : Setting α) {k : Kind} (q : Quantity α k) :
    ∀ part ∈ q.parts setting, setting.Contains q part.2 := by
  cases q
  case barrierGradient block =>
    -- The slacks that are asked for are those of the block.
    cases block <;> simp [parts, Setting.Contains, Setting.UsesSlack, point] <;> exact ⟨rfl, rfl⟩
  case lagrangianGradient block =>
    cases block <;> simp [parts, Setting.Contains, Setting.UsesSlack, point]
  case meanComplementarity point =>
    by_cases hcount : setting.dims.boundCount = 0 <;>
      simp [parts, hcount, Setting.Contains, Setting.UsesSlack, Quantity.point]
  -- For the other quantities the lists of parts can be compared as they stand.
  all_goals simp [parts, errorParts, Setting.Contains, Setting.UsesSlack, point]

/-- A formula asks only for quantities at its own point that use no other
slacks. -/
theorem Quantity.formula_contains (setting : Setting α) {k : Kind} (q : Quantity α k) :
    (q.formula setting).Within (setting.Contains q) (setting.Reports q) fun _ => True :=
  (q.formula_within setting).mono
    (fun part hpart => contains_of_mem_parts setting q ⟨_, part⟩ hpart) (fun _ h => h)
    fun _ h => h

/-- The slack that a quantity uses is its own, or that of a part which
its formula requires. -/
theorem Quantity.requires_of_usesSlack {k : Kind} {q : Quantity α k}
    (h : setting.UsesSlack family q)
    (hslack : (⟨k, q⟩ : Sigma (Quantity α)) ≠ ⟨.vector, .slack q.point family⟩) :
    ∃ (k' : Kind) (part : Quantity α k'), (q.formula setting).Requires ⟨k', part⟩
      ∧ part.rank < q.rank ∧ part.point = q.point ∧ setting.UsesSlack family part := by
  have hgradient : ∀ {block : Block} {gradient : List α} {bound : Nat} (lower : 0 < bound),
      block = family.block → (addBarrierGradient setting block gradient lower).Requires
        ⟨.vector, .slack .current family⟩ := by
    rintro _ gradient bound lower rfl
    obtain ⟨block, _ | _⟩ := family
    · exact (requires_value _ lower).bind_left _
    · exact requires_bind_right _ fun _ => (requires_value _ lower).bind_left _
  have hlimit : ∀ {tau : α} {step : TaggedVector α} {bound : Nat} (lower : 0 < bound),
      (blockStepLimit setting family.block tau step lower).Requires
        ⟨.vector, .slack .current family⟩ := by
    intro tau step bound lower
    obtain ⟨block, _ | _⟩ := family
    · exact (requires_value _ lower).bind_left _
    · exact requires_bind_right _ fun _ => (requires_value _ lower).bind_left _
  have hscaled : ∀ {target : α} {bound : Nat} (lower : 3 < bound),
      (scaledError setting target lower).Requires ⟨.scalar, .complementarityNorm target .max⟩ :=
    fun lower => requires_bind_right _ fun _ => requires_bind_right _ fun _ =>
      (requires_value _ (Nat.lt_of_succ_lt lower)).bind_left _
  have haveraged : ∀ {target : α} {bound : Nat} (lower : 3 < bound),
      (averagedError setting target lower).Requires ⟨.scalar, .complementarityNorm target .one⟩ :=
    fun lower => requires_bind_right _ fun _ => requires_bind_right _ fun _ =>
      (requires_value _ (Nat.lt_of_succ_lt lower)).bind_left _
  cases q
  case slack point own =>
    obtain rfl := h
    exact absurd rfl hslack
  case barrierObjective point =>
    exact ⟨_, .slack point family, requires_bind_right _ fun _ =>
      (requires_slacks _ _ family).bind_left _, Nat.zero_lt_one, rfl, rfl⟩
  case barrierGradient block =>
    refine ⟨_, .slack .current family, ?_, Nat.zero_lt_one, rfl, rfl⟩
    cases block with
    | x => exact requires_bind_right _ fun _ => hgradient _ h
    | s => exact hgradient _ h
  case directionalDerivative =>
    refine ⟨_, .barrierGradient family.block, requires_bind_right _ fun _ => ?_, Nat.one_lt_two,
      rfl, rfl⟩
    rcases family.block with _ | _
    · exact (requires_value _ _).bind_left _
    · exact requires_bind_right _ fun _ => (requires_value _ _).bind_left _
  case complementarity own =>
    obtain rfl := h
    exact ⟨_, .slack .current own, (requires_value _ _).bind_left _, Nat.zero_lt_one, rfl, rfl⟩
  case relaxedComplementarity own =>
    obtain rfl := h
    exact ⟨_, .complementarity own, (requires_value _ _).bind_left _, Nat.one_lt_two, rfl, rfl⟩
  case complementarityNorm target norm =>
    exact ⟨_, .complementarity family, (requires_complementarities _ family).bind_left _,
      Nat.one_lt_two, rfl, rfl⟩
  case centralityMeasure =>
    exact ⟨_, .complementarity family, (requires_complementarities _ family).bind_left _,
      Nat.one_lt_two, rfl, rfl⟩
  case problemError => exact ⟨_, _, hscaled _, by simp [rank], rfl, trivial⟩
  case barrierError => exact ⟨_, _, hscaled _, by simp [rank], rfl, trivial⟩
  case meanError => exact ⟨_, _, haveraged _, by simp [rank], rfl, trivial⟩
  case meanBarrierError => exact ⟨_, _, haveraged _, by simp [rank], rfl, trivial⟩
  case primalStepLimit tau xStep sStep =>
    refine ⟨_, .slack .current family, ?_, Nat.zero_lt_one, rfl, rfl⟩
    obtain ⟨_ | _, side⟩ := family
    · exact (hlimit _).bind_left _
    · exact requires_bind_right _ fun _ => (hlimit _).bind_left _
  case slackStepLimit tau steps =>
    refine ⟨_, .slack .current family, ?_, Nat.zero_lt_one, rfl, rfl⟩
    simp only [formula]
    exact requires_foldlM (β := α) family.mem_all (fun _ => (requires_value _ _).bind_left _) _
  case primalDualScaling block =>
    obtain rfl := h
    refine ⟨_, .slack .current family, ?_, Nat.zero_lt_one, rfl, rfl⟩
    obtain ⟨block, _ | _⟩ := family
    · exact (requires_value _ _).bind_left _
    · exact requires_bind_right _ fun _ => (requires_value _ _).bind_left _
  case meanComplementarity point =>
    refine ⟨_, .slack point family, requires_bind_right _ fun iterate => ?_, Nat.zero_lt_one, rfl,
      rfl⟩
    -- The number of bounds is not zero.
    rw [if_neg h]
    exact (requires_foldlM family.mem_all (fun _ => (requires_value _ _).bind_left _) _).bind_left _
  all_goals exact h.elim

namespace Setting

/-- A quantity that visits anything has a key. -/
theorem Visits.exists_key {point : Point} {k : Kind} {q : Quantity α k}
    (h : setting.Visits point family q) : ∃ key, setting.key q = .ok key := by
  cases h with
  | slack hkey => exact hkey
  | part hkey => exact hkey

/-- A quantity visits only the slacks that it uses, at its own point. -/
theorem Visits.usesSlack {point : Point} {k : Kind} {q : Quantity α k}
    (h : setting.Visits point family q) : q.point = point ∧ setting.UsesSlack family q := by
  induction h with
  | slack => exact ⟨rfl, rfl⟩
  | @part _ _ q _ _ hasks _ ih =>
      obtain ⟨hpoint, huses⟩ := hasks.within (q.formula_contains setting)
      exact ⟨hpoint.symm.trans ih.1, huses family ih.2⟩

/-- A quantity that has a value visits every slack that it uses. -/
theorem visits_of_usesSlack {k : Kind} {q : Quantity α k} {value : Carrier α k}
    (hvalue : setting.value q = .ok value) (huses : setting.UsesSlack family q) :
    setting.Visits q.point family q := by
  -- Induction on the rank, since the slack may be that of a part.
  induction hrank : q.rank using Nat.strongRecOn generalizing k with
  | ind rank ih =>
      subst hrank
      rw [value_eq] at hvalue
      obtain ⟨key, hkey, hformula⟩ := Checked.bind_eq_ok.1 hvalue
      by_cases hslack : (⟨k, q⟩ : Sigma (Quantity α)) = ⟨.vector, .slack q.point family⟩
      · obtain ⟨rfl, hq⟩ := Sigma.mk.inj hslack
        rw [eq_of_heq hq] at hkey ⊢
        exact .slack ⟨key, hkey⟩
      · obtain ⟨k', part, hrequires, hlower, hpoint, hpart⟩ :=
          Quantity.requires_of_usesSlack huses hslack
        obtain ⟨hasks, partValue, hpartValue⟩ := asks_of_requires hrequires hformula
        rw [← hpoint]
        exact .part ⟨key, hkey⟩ hasks (ih _ hlower hpartValue hpart rfl)

end Setting

end

/-! ### Keys and slacks -/

namespace Setting

variable [Scalar α] {s₁ s₂ : Setting α}

omit [Scalar α] in
/-- Keys that agree begin with the same identity. -/
theorem eq_of_leadingTag {t₁ t₂ : Tag} {tags₁ tags₂ : List Tag} {parts₁ parts₂ : List (KeyPart α)}
    {key : Key α} (h₁ : { tags := t₁ :: tags₁, parts := parts₁ } = key)
    (h₂ : { tags := t₂ :: tags₂, parts := parts₂ } = key) : t₁ = t₂ := by
  subst h₁
  simp only [Key.mk.injEq, List.cons.injEq] at h₂
  exact h₂.1.1.symm

/-- Two requests that can meet in a cache and have the same key use
slacks of the same pairs. -/
theorem slackPair_of_key_eq {pool : Pool α} (hpool : pool.Coherent) (h : s₁.SameFrame s₂)
    (known₁ : s₁.state.Known pool) (known₂ : s₂.state.Known pool) {k : Kind}
    {q₁ q₂ : Quantity α k} (hslot : q₁.SharesSlot q₂) {key : Key α} (h₁ : s₁.key q₁ = .ok key)
    (h₂ : s₂.key q₂ = .ok key) {family : Family} (huses : s₁.UsesSlack family q₁) :
    s₂.UsesSlack family q₂
      ∧ ∃ i₁ i₂, s₁.state.iterateAt q₁.point = .ok i₁ ∧ s₂.state.iterateAt q₂.point = .ok i₂
        ∧ i₁.slackPair family = i₂.slackPair family := by
  -- Either the identity of the whole point comes first in the key, or the two of the slack.
  have hcurrent : s₁.state.current.tag = s₂.state.current.tag → ∃ i₁ i₂,
      s₁.state.iterateAt .current = .ok i₁ ∧ s₂.state.iterateAt .current = .ok i₂
        ∧ i₁.slackPair family = i₂.slackPair family := by
    intro htag
    have hsame := hpool.point_eq _ known₁.current _ known₂.current htag
    exact ⟨_, _, rfl, rfl, by rw [hsame]⟩
  cases Quantity.twin_of_sharesSlot hslot <;>
    simp only [Setting.key, currentKey, Key.ofTags, Key.number, Key.tag, Key.norm,
      PerFamily.toList, Checked.bind_eq_ok, Checked.pure_eq_ok, List.foldl, List.cons_append]
      at h₁ h₂
  case slack p₁ p₂ own =>
    obtain rfl := huses
    obtain ⟨i₁, hi₁, rfl⟩ := h₁
    obtain ⟨i₂, hi₂, hkey⟩ := h₂
    obtain ⟨⟨hprimal, hmultiplier⟩, -⟩ := by simpa using hkey.symm
    have m₁ := known₁.iterateAt hi₁
    have m₂ := known₂.iterateAt hi₂
    exact ⟨rfl, i₁, i₂, hi₁, hi₂, Prod.ext (hpool.primal_eq m₁ m₂ _ hprimal)
      (hpool.component_eq m₁ m₂ (.multiplier own) hmultiplier)⟩
  case barrierObjective p₁ p₂ =>
    obtain ⟨i₁, hi₁, hkey₁⟩ := h₁
    obtain ⟨i₂, hi₂, hkey₂⟩ := h₂
    have hsame := hpool.point_eq _ (known₁.iterateAt hi₁) _ (known₂.iterateAt hi₂)
      (eq_of_leadingTag hkey₁ hkey₂)
    exact ⟨trivial, i₁, i₂, hi₁, hi₂, by rw [hsame]⟩
  case meanComplementarity p₁ p₂ =>
    obtain ⟨i₁, hi₁, hkey₁⟩ := h₁
    obtain ⟨i₂, hi₂, hkey₂⟩ := h₂
    have hsame := hpool.point_eq _ (known₁.iterateAt hi₁) _ (known₂.iterateAt hi₂)
      (eq_of_leadingTag hkey₁ hkey₂)
    refine ⟨?_, i₁, i₂, hi₁, hi₂, by rw [hsame]⟩
    rw [UsesSlack, ← h.dims]
    exact huses
  case directionalDerivative =>
    obtain ⟨d₁, -, hkey₁⟩ := h₁
    obtain ⟨d₂, -, hkey₂⟩ := h₂
    exact ⟨trivial, hcurrent (eq_of_leadingTag hkey₁ hkey₂)⟩
  case primalStepLimit =>
    obtain ⟨_, -, _, -, _, -, hkey₁⟩ := h₁
    obtain ⟨_, -, _, -, _, -, hkey₂⟩ := h₂
    exact ⟨trivial, hcurrent (eq_of_leadingTag hkey₁ hkey₂)⟩
  case slackStepLimit =>
    obtain ⟨_, -, _, -, hkey₁⟩ := h₁
    obtain ⟨_, -, _, -, hkey₂⟩ := h₂
    exact ⟨trivial, hcurrent (eq_of_leadingTag hkey₁ hkey₂)⟩
  -- The keys that are left begin with the current point, or belong to no slack.
  all_goals first
    | exact huses.elim
    | exact ⟨huses, hcurrent (eq_of_leadingTag h₁ h₂)⟩

end Setting

end InteriorPoint
