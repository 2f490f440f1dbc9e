import InteriorPoint.Proofs.Quantity.Refusals
import InteriorPoint.Proofs.Session

/-!
# `InteriorPoint.Proofs.Engine.Refusals`: the reasons for a refusal

An engine refuses a request for one of five reasons, and
`Setting.Refuses` lists them. The trial point or the search direction is
not set. The fraction of a step length is out of range. A vector among
the arguments has the wrong size, or something that a function of the
problem returns has. The functions may return what they like.

No request ends in `Error.misaligned`. Nothing on the way to an answer
catches an error, so no elementary operation has met operands that do
not fit. Nor does the length check of a step limit ever fail.

Formulas are safe if what they are given has the right size
(`Setting.Sound.safe_formula`). The invariant is therefore that every
stored result has the size that belongs to its cache. Sizes do not
change, so this holds of results from earlier states as well.
-/

set_option autoImplicit false

namespace InteriorPoint

variable {α : Type}

/-! ### Requests -/

namespace Request

/-- The point that a request is about. -/
def point : {k : Kind} → Request α k → Point
  | _, quantity q => q.point
  | _, _ => .current

/-- The request is about the search direction. -/
def NeedsDirection : {k : Kind} → Request α k → Prop
  | _, quantity q => q.NeedsDirection
  | _, primalStepLimitAlongDirection _ | _, dualStepLimitAlongDirection _ => True
  | _, _ => False

/-- The fraction that a request for a step length is made with. -/
def fraction? : {k : Kind} → Request α k → Option α
  | _, quantity q => q.fraction?
  | _, primalStepLimitAlongDirection tau | _, dualStepLimitAlongDirection tau => some tau
  | _, _ => none

/-- The vectors that a request is made with. -/
def arguments (setting : Setting α) :
    {k : Kind} → Request α k → List (String × Nat × TaggedVector α)
  | _, quantity q => setting.arguments q
  | _, _ => []

end Request

variable [Scalar α]

namespace Setting

/-- The reasons for which a request is refused. -/
inductive Refuses (setting : Setting α) {k : Kind} (request : Request α k) : Error α → Prop where
  | trial (hpoint : request.point = .trial) (hmissing : setting.state.trial = none) :
      Refuses setting request (.missingComponent "trial iterate")
  | direction (hneeds : request.NeedsDirection) (hmissing : setting.state.direction = none) :
      Refuses setting request (.missingComponent "search direction")
  | fraction {tau : α} (htau : request.fraction? = some tau) (hout : ¬ (0 < tau ∧ tau ≤ 1)) :
      Refuses setting request (.invalidParameter "tau" tau "(0, 1]")
  | argument {context : String} {size : Nat} {v : TaggedVector α}
      (hargument : (context, size, v) ∈ request.arguments setting) (hwrong : size ≠ v.size) :
      Refuses setting request (.dimensionMismatch context size v.size)
  | result {error : Error α} (hresult : setting.Misshaped request.point error) :
      Refuses setting request error

variable {setting : Setting α} {k : Kind} {request : Request α k} {error : Error α}

/-- A direction is required and there is none. -/
theorem refuses_of_requireDirection (hneeds : request.NeedsDirection)
    (h : setting.state.requireDirection = .error error) : setting.Refuses request error := by
  rcases hmissing : setting.state.direction with _ | direction <;>
    simp only [State.requireDirection, hmissing] at h <;> cases h
  exact .direction hneeds hmissing

/-- A component that a request mentions is missing. -/
theorem refuses_of_resolve (h : request.resolve setting.state = .error error) :
    setting.Refuses request error := by
  cases request with
  | quantity q => cases h
  | jacobianTransposeTimesMultipliers group => cases group <;> cases h
  -- A limit along the search direction needs the direction.
  | primalStepLimitAlongDirection tau =>
      rcases Checked.bind_eq_error.1 h with hdirection | ⟨_, -, hpure⟩
      · exact refuses_of_requireDirection trivial hdirection
      · cases hpure
  | dualStepLimitAlongDirection tau =>
      rcases Checked.bind_eq_error.1 h with hdirection | ⟨_, -, hpure⟩
      · exact refuses_of_requireDirection trivial hdirection
      · cases hpure

omit [Scalar α] in
/-- The quantity is about the point that the request is about. -/
theorem point_of_resolve {state : State α} {quantity : Quantity α k}
    (h : request.resolve state = .ok quantity) : quantity.point = request.point := by
  cases request with
  | quantity q =>
      cases h
      rfl
  | jacobianTransposeTimesMultipliers group =>
      cases group <;> cases h <;> rfl
  | primalStepLimitAlongDirection tau =>
      obtain ⟨_, -, hpure⟩ := Checked.bind_eq_ok.1 h
      cases hpure
      rfl
  | dualStepLimitAlongDirection tau =>
      obtain ⟨_, -, hpure⟩ := Checked.bind_eq_ok.1 h
      cases hpure
      rfl

/-- The fraction of the request is out of its range. -/
theorem refuses_of_exists_fraction {quantity : Quantity α k}
    (hsame : quantity.fraction? = request.fraction?)
    (h : ∃ tau, quantity.fraction? = some tau ∧ ¬ (0 < tau ∧ tau ≤ 1)
      ∧ error = .invalidParameter "tau" tau "(0, 1]") : setting.Refuses request error := by
  obtain ⟨tau, htau, hout, rfl⟩ := h
  exact .fraction (hsame.symm.trans htau) hout

/-- What a request reads from the state has the right sizes, so the
quantity it is for is denied a key for the fraction only. -/
theorem refuses_of_denies (hvalid : setting.state.Valid) {quantity : Quantity α k}
    (h : request.resolve setting.state = .ok quantity) (hdenies : setting.Denies quantity error) :
    setting.Refuses request error := by
  have hcurrent := hvalid.current
  cases request with
  | quantity q =>
      cases h
      cases hdenies with
      | trial hpoint hmissing => exact .trial hpoint hmissing
      | direction hneeds hmissing => exact .direction hneeds hmissing
      | fraction htau hout => exact .fraction htau hout
      | argument hargument hwrong => exact .argument hargument hwrong
  | jacobianTransposeTimesMultipliers group =>
      cases group with
      | equality =>
          cases h
          -- The vectors come from the state, so they fit.
          exact refuses_of_exists_fraction rfl (hdenies.exists_fraction rfl id
            (List.forall_mem_singleton.2 (hcurrent .yC)))
      | inequality =>
          cases h
          exact refuses_of_exists_fraction rfl (hdenies.exists_fraction rfl id
            (List.forall_mem_singleton.2 (hcurrent .yD)))
  | primalStepLimitAlongDirection tau =>
      obtain ⟨direction, hdirection, hpure⟩ := Checked.bind_eq_ok.1 h
      cases hpure
      have hfits := hvalid.direction _ (State.requireDirection_eq_ok.1 hdirection)
      exact refuses_of_exists_fraction rfl (hdenies.exists_fraction rfl id
        (List.forall_mem_cons.2 ⟨hfits .x, List.forall_mem_singleton.2 (hfits .s)⟩))
  | dualStepLimitAlongDirection tau =>
      obtain ⟨direction, hdirection, hpure⟩ := Checked.bind_eq_ok.1 h
      cases hpure
      have hfits := hvalid.direction _ (State.requireDirection_eq_ok.1 hdirection)
      exact refuses_of_exists_fraction rfl (hdenies.exists_fraction rfl id
        (List.forall_mem_map.2 fun family _ => hfits (.multiplier family)))

/-- No refusal comes from an elementary operation. -/
theorem Refuses.ne_misaligned (h : setting.Refuses request error) : error ≠ .misaligned := by
  rintro rfl
  cases h with
  | result hresult => cases hresult

omit [Scalar α] in
/-- What a request is given is checked under other names than the operands
of a step limit. -/
theorem context_ne_stepLimit_of_argument {context : String} {size : Nat} {v : TaggedVector α}
    (h : (context, size, v) ∈ request.arguments setting) : context ≠ "frac_to_bound delta" := by
  cases request with
  | quantity q =>
      -- The contexts are all written out, so they can be compared.
      cases q
      case jacobianTimes group _ | jacobianTransposeTimes group _ =>
        cases List.mem_singleton.1 h
        cases group <;> decide
      case primalStepLimit =>
        rcases List.mem_cons.1 h with h | h
        · cases h
          decide
        · cases List.mem_singleton.1 h
          decide
      case dualStepLimit | slackStepLimit =>
        obtain ⟨_, -, h⟩ := List.mem_map.1 h
        cases h
        decide
      all_goals cases h
  | _ => cases h

/-- So is what functions return. -/
theorem context_ne_stepLimit_of_result {iterate : Iterate α} {callback : Callback}
    {context : String} {expected found : Nat}
    (h : (context, expected, found) ∈ setting.resultSizes iterate callback) :
    context ≠ "frac_to_bound delta" := by
  -- The names of the sizes that are checked, callback by callback.
  cases callback with
  | objective => cases h
  | gradient =>
      cases List.mem_singleton.1 h
      decide
  | constraint group =>
      cases List.mem_singleton.1 h
      cases group <;> decide
  | jacobian group =>
      rcases List.mem_cons.1 h with h | h
      · cases h
        cases group <;> decide
      · cases List.mem_singleton.1 h
        cases group <;> decide
  | hessian =>
      rcases List.mem_cons.1 h with h | h
      · cases h
        decide
      · cases List.mem_singleton.1 h
        decide

/-- No refusal comes from the length check of a step limit. -/
theorem Refuses.ne_stepLimit (h : setting.Refuses request error) (expected found : Nat) :
    error ≠ .dimensionMismatch "frac_to_bound delta" expected found := by
  rintro rfl
  cases h with
  | argument hargument => exact context_ne_stepLimit_of_argument hargument rfl
  | result hresult =>
      cases hresult with
      | result _ hresult => exact context_ne_stepLimit_of_result hresult rfl

end Setting

/-! ### Evaluation -/

/-- A result satisfies `returns`, and a refusal satisfies `refuses`. -/
def Checked.Ends {β : Type} (checked : Checked α β) (returns : β → Prop)
    (refuses : Error α → Prop) : Prop :=
  match checked with
  | .ok value => returns value
  | .error error => refuses error

namespace Memory

/-- A stored result has the size that belongs to its cache. -/
def HasSize (setting : Setting α) ⦃k : Kind⦄ (slot : Slot k) (_ : Key α) (kept : Kept α k) : Prop :=
  setting.Fits slot kept.value

/-- What is asked of an answer: results keep having the right sizes, and
a refusal means that there is no key, or that a function of the problem
has returned something of the wrong size. -/
def Regular (setting : Setting α) : Answers α :=
  fun _ quantity m r m' => m.store.All (HasSize setting) → m'.store.All (HasSize setting)
    ∧ Checked.Ends r (fun kept => setting.Fits quantity.slot kept.value)
      fun error => setting.key quantity = .error error ∨ setting.Misshaped quantity.point error

/-- A safe program whose requests are answered regularly gives up only
because of a function of the problem. -/
theorem executes_regular {setting : Setting α} {point : Point} {bound : Nat} {β : Type}
    {p : Program α bound β} {m m' : Memory α} {r : Checked α β} {returns : β → Prop}
    (h : Executes (Regular setting) p m r m') (hp : setting.Safe point returns p)
    (hsizes : m.store.All (HasSize setting)) :
    m'.store.All (HasSize setting) ∧ Checked.Ends r returns (setting.Misshaped point) := by
  induction h with
  | done => exact ⟨hsizes, hp⟩
  | fail => exact ⟨hsizes, hp⟩
  | report _ ih => exact ih hp hsizes
  | ask hpart _ ih =>
      obtain ⟨-, -, hnext⟩ := hp
      obtain ⟨hmiddle, hfits⟩ := hpart hsizes
      exact ih (hnext _ hfits) hmiddle
  | refused hpart =>
      -- The part has a key, so it was refused for the other reason.
      obtain ⟨rfl, ⟨key, hkey⟩, -⟩ := hp
      obtain ⟨hafter, hnone | hmisshaped⟩ := hpart hsizes
      · cases hkey.symm.trans hnone
      · exact ⟨hafter, hmisshaped⟩

/-- All answers are regular. -/
theorem evaluate_regular {setting : Setting α} (hsound : setting.Sound) {k : Kind}
    (quantity : Quantity α k) (m : Memory α) :
    Regular setting quantity m ((evaluate setting quantity).run m).1
      ((evaluate setting quantity).run m).2 := by
  refine evaluate_rule setting ?_ quantity m
  intro k quantity m r m' h hsizes
  -- What is held has its size; what is copied has the size of the other cache, which is the same.
  cases h with
  | refused hkey => exact ⟨hsizes, Or.inl hkey⟩
  | held hkey hown => exact ⟨hsizes, hsizes _ _ _ hown⟩
  | copied hkey hown hother =>
      obtain ⟨other, hslot, hheld⟩ := Option.bind_eq_some_iff.1 hother
      have hfits := Setting.fits_of_counterpart hslot (hsizes _ _ _ hheld)
      exact ⟨hsizes.remember hfits, hfits⟩
  | failed hmissing hformula =>
      obtain ⟨hafter, hmisshaped⟩ :=
        executes_regular hformula (hsound.safe_formula hmissing.key_eq) hsizes
      exact ⟨hafter, Or.inr hmisshaped⟩
  | computed hmissing hformula =>
      obtain ⟨hafter, hfits⟩ :=
        executes_regular hformula (hsound.safe_formula hmissing.key_eq) hsizes
      exact ⟨hafter.remember hfits, hfits⟩

end Memory

/-! ### Engines -/

namespace Engine

/-- Whatever an engine does, its results keep having the right sizes. -/
theorem Performed.hasSize {engine engine' : Engine α} {supply supply' : Supply} {action : Action α}
    {events : List (Event α)} (h : Performed engine supply action engine' events supply')
    (hsound : engine.setting.Sound)
    (hsizes : engine.store.All (Memory.HasSize engine.setting)) :
    engine'.store.All (Memory.HasSize engine'.setting) := by
  cases h with
  | refused => exact hsizes
  | answered => exact (Memory.evaluate_regular hsound _ _ hsizes).1
  -- The dimensions never change, and the right sizes depend on nothing else.
  | @changed _ state _ _ hchange =>
      have hdims : ({ engine.setting with state } : Setting α).dims = engine.setting.dims :=
        hchange.dims
      exact hsizes.mono fun hfits => Setting.Fits.congr hdims hfits
  | options => exact Store.all_empty _
  | callbacks => exact hsizes.mono fun hfits => Setting.Fits.congr rfl hfits
  | cleared => exact Store.all_empty _
  | reset => exact hsizes

/-- Results have the right sizes in every engine that can come about. -/
theorem Reachable.hasSize {engine : Engine α} (h : engine.Reachable) :
    engine.store.All (Memory.HasSize engine.setting) := by
  induction h with
  | new _ hnew =>
      obtain ⟨-, -, rfl⟩ := Engine.new_eq_ok.1 hnew
      exact Store.all_empty _
  | perform hengine action supply ih =>
      exact (performed_perform _ action supply).hasSize hengine.wellFormed.sound ih

/-- An engine that can come about refuses a request only for the reasons
that are listed. In particular no elementary operation meets operands
that do not fit, and the length check of a step limit does not fail,
whatever the functions of the problem return and whatever the request is
made with. -/
theorem Reachable.refuses_of_answer {engine : Engine α} (h : engine.Reachable) {k : Kind}
    {request : Request α k} {supply : Supply} {error : Error α}
    (hanswer : (engine.answer request supply).1.result = .error error) :
    engine.setting.Refuses request error ∧ error ≠ .misaligned
      ∧ ∀ expected found, error ≠ .dimensionMismatch "frac_to_bound delta" expected found := by
  have hsound := h.wellFormed.sound
  have hrefuses : engine.setting.Refuses request error := by
    rcases hresolve : request.resolve engine.setting.state with first | quantity
    · rw [Engine.answer_of_refused hresolve] at hanswer
      cases hanswer
      exact Setting.refuses_of_resolve hresolve
    · rw [Engine.answer_of_resolved hresolve] at hanswer
      have hends :=
        (Memory.evaluate_regular hsound quantity (engine.memory supply) h.hasSize).2
      rw [show ((Memory.evaluate engine.setting quantity).run (engine.memory supply)).1
        = .error error from hanswer] at hends
      -- Either the quantity has no key or a function has returned the wrong size.
      rcases hends with hkey | hmisshaped
      · exact Setting.refuses_of_denies hsound.valid hresolve (Setting.denies_of_key hkey)
      · rw [Setting.point_of_resolve hresolve] at hmisshaped
        exact .result hmisshaped
  exact ⟨hrefuses, hrefuses.ne_misaligned, hrefuses.ne_stepLimit⟩

/-- The derivative along the search direction is refused where there is
none. -/
theorem Reachable.refuses_of_answer_halfLine :
    (HalfLine.engine.answer (.quantity .directionalDerivative) ⟨33⟩).1.result
        = .error (.missingComponent "search direction")
      ∧ HalfLine.engine.setting.Refuses (.quantity .directionalDerivative)
        (.missingComponent "search direction") := by
  have hanswer : (HalfLine.engine.answer (.quantity .directionalDerivative) ⟨33⟩).1.result
      = .error (.missingComponent "search direction") := rfl
  exact ⟨hanswer, (Reachable.refuses_of_answer HalfLine.session.reachable hanswer).1⟩

end Engine

end InteriorPoint
