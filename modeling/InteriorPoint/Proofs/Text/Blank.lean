import Mathlib.Data.List.DropRight
import InteriorPoint.Text.Blank

/-!
# `InteriorPoint.Proofs.Text.Blank`: what remains of a text

`Trims` says of a part of a text that it is what remains without the
white space at both ends: the rest of the text is white space, and the
part neither starts nor ends with any. A text has exactly one such part,
and `trim` finds it (`trims_trim`, `Trims.trim_eq`).

What trimming makes of a changed text can therefore be read from how the
text splits. White space added at the ends does not matter
(`Trims.pad`), and capital letters may be lowered before or after,
because that makes no character blank (`isBlank_lowerAscii`,
`Trims.map`).
-/

set_option autoImplicit false

namespace InteriorPoint.Text

/-- The middle of a text is what remains without the white space at both
ends. -/
structure Trims (text middle : List Char) : Prop where
  split : ∃ front back, text = front ++ middle ++ back
    ∧ (∀ c ∈ front, isBlank c) ∧ ∀ c ∈ back, isBlank c
  first : ∀ h : middle ≠ [], ¬ isBlank (middle.head h)
  last : ∀ h : middle ≠ [], ¬ isBlank (middle.getLast h)

/-- Trimming leaves what remains without the white space at both ends. -/
theorem trims_trim (text : List Char) : Trims text (trim text) := by
  have htrim : trim text = (text.dropWhile isBlank).rdropWhile isBlank := rfl
  constructor
  case split =>
    refine ⟨text.takeWhile isBlank, (text.dropWhile isBlank).rtakeWhile isBlank, ?_,
      fun _ => List.mem_takeWhile_imp, fun _ => List.mem_rtakeWhile_imp⟩
    rw [htrim, List.append_assoc, List.rdropWhile_append_rtakeWhile,
      List.takeWhile_append_dropWhile]
  case first =>
    intro h
    -- What remains starts where the white space in front has been dropped.
    have hpart : trim text <+: text.dropWhile isBlank := List.rdropWhile_prefix isBlank _
    rw [hpart.head h, List.head_dropWhile_not isBlank (hpart.ne_nil h)]
    exact Bool.false_ne_true
  case last =>
    intro h
    exact List.rdropWhile_last_not isBlank _ h

/-- Only one part of a text can remain. -/
theorem Trims.trim_eq {text middle : List Char} (h : Trims text middle) : trim text = middle := by
  obtain ⟨⟨front, back, rfl, hfront, hback⟩, hfirst, hlast⟩ := h
  show List.rdropWhile isBlank (List.dropWhile isBlank (front ++ middle ++ back)) = middle
  rw [List.append_assoc, List.dropWhile_append_of_pos hfront]
  by_cases hempty : middle = []
  · rw [hempty, List.nil_append, List.dropWhile_eq_nil_iff.2 hback]
    rfl
  · -- The middle stops the search from either side.
    have hstart : (middle ++ back).dropWhile isBlank = middle ++ back := by
      obtain ⟨c, rest, rfl⟩ := List.exists_cons_of_ne_nil hempty
      exact List.dropWhile_cons_of_neg (hfirst hempty)
    have hend : ∀ c ∈ back.reverse, isBlank c := fun c hmem => hback c (List.mem_reverse.1 hmem)
    rw [hstart, List.rdropWhile, List.reverse_append, List.dropWhile_append_of_pos hend]
    exact List.rdropWhile_eq_self_iff.2 hlast

/-- White space at the ends does not change what remains. -/
theorem Trims.pad {text middle : List Char} (h : Trims text middle) {front back : List Char}
    (hfront : ∀ c ∈ front, isBlank c) (hback : ∀ c ∈ back, isBlank c) :
    Trims (front ++ text ++ back) middle where
  split := by
    obtain ⟨front', back', rfl, hfront', hback'⟩ := h.split
    -- The new white space joins the old.
    refine ⟨front ++ front', back' ++ back, by simp only [List.append_assoc], ?_, ?_⟩
    · exact List.forall_mem_append.2 ⟨hfront, hfront'⟩
    · exact List.forall_mem_append.2 ⟨hback', hback⟩
  first := h.first
  last := h.last

/-- A change of characters that keeps white space apart from the rest. -/
theorem Trims.map {text middle : List Char} (h : Trims text middle) {f : Char → Char}
    (hf : ∀ c, isBlank (f c) = isBlank c) : Trims (text.map f) (middle.map f) where
  split := by
    obtain ⟨front, back, rfl, hfront, hback⟩ := h.split
    refine ⟨front.map f, back.map f, by simp only [List.map_append], ?_, ?_⟩
    · exact List.forall_mem_map.2 fun c hmem => (hf c).trans (hfront c hmem)
    · exact List.forall_mem_map.2 fun c hmem => (hf c).trans (hback c hmem)
  first hne := by
    rw [List.head_map, hf]
    exact h.first _
  last hne := by
    rw [List.getLast_map, hf]
    exact h.last _

/-- The letters from `A` to `z` are not white space. -/
theorem isBlank_eq_false {c : Char} (hlow : 0x41 ≤ c.toNat) (hhigh : c.toNat ≤ 0x7A) :
    isBlank c = false := by
  simp only [isBlank, blankRanges, List.any_cons, List.any_nil, Bool.or_eq_false_iff,
    Bool.and_eq_false_iff, decide_eq_false_iff_not, and_true]
  omega

/-- Lowering a capital letter makes no character blank. -/
theorem isBlank_lowerAscii (c : Char) : isBlank (lowerAscii c) = isBlank c := by
  unfold lowerAscii
  split
  · rename_i hcapital
    have hlow : 0x41 ≤ c.toNat := hcapital.1
    have hhigh : c.toNat ≤ 0x5A := hcapital.2
    -- A capital letter and its small form are both letters.
    have hlower : (Char.ofNat (c.toNat + 32)).toNat = c.toNat + 32 := by
      rw [Char.ofNat, dif_pos (Or.inl (by omega))]
      rfl
    rw [isBlank_eq_false (by omega) (by omega), isBlank_eq_false hlow (by omega)]
  · rfl

end InteriorPoint.Text
