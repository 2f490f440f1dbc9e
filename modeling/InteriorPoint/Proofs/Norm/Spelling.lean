import InteriorPoint.Options.Document
import InteriorPoint.Proofs.Text.Blank

/-!
# `InteriorPoint.Proofs.Norm.Spelling`: two readers of a norm

A norm is read from an option file by its exact spelling, and from a text
that a person has typed by a word. There are two tables, one for each
reader. They list the same words (`ofWord?_eq_ofSpelling?`), and the
words are in the form into which a typed text is brought
(`normalizeSpelling_of_mem`), so that whatever a file may say can be
typed as well.

What a typed text means depends on its compared form only. White space
around the text and the case of its letters do not enter that form
(`normalizeSpelling_pad`).
-/

set_option autoImplicit false

namespace InteriorPoint.Norm

/-! ### The two tables -/

/-- The table of option files lists the spellings. -/
theorem ofSpelling?_eq_some_iff {text : String} {norm : Norm} :
    ofSpelling? text = some norm ↔ text ∈ norm.spellings := by
  constructor
  · intro h
    simpa using List.find?_some h
  · intro h
    -- Each norm has three spellings.
    cases norm <;>
    · simp only [spellings, List.mem_cons, List.not_mem_nil, or_false] at h
      rcases h with rfl | rfl | rfl <;> rfl

/-- So does the table of typed words. -/
theorem ofWord?_eq_some_iff {text : String} {norm : Norm} :
    ofWord? text = some norm ↔ text ∈ norm.spellings := by
  constructor
  · intro h
    unfold ofWord? at h
    -- The table that is searched, word by word.
    split at h <;> cases h <;> simp [spellings]
  · intro h
    cases norm <;>
    · simp only [spellings, List.mem_cons, List.not_mem_nil, or_false] at h
      rcases h with rfl | rfl | rfl <;> rfl

/-- A person may type what a file may say, and no other word. -/
theorem ofWord?_eq_ofSpelling? (text : String) : ofWord? text = ofSpelling? text :=
  Option.ext fun _ => ofWord?_eq_some_iff.trans ofSpelling?_eq_some_iff.symm

/-- A text in an option file is read like a typed word. -/
theorem ofDocument?_string (text : String) :
    ofDocument? (.string (some text)) = ofWord? text :=
  (ofWord?_eq_ofSpelling? text).symm

/-! ### The compared form -/

/-- The spellings are in the compared form. -/
theorem normalizeSpelling_of_mem {text : String} {norm : Norm} (h : text ∈ norm.spellings) :
    normalizeSpelling text = text := by
  cases norm <;>
  · simp only [spellings, List.mem_cons, List.not_mem_nil, or_false] at h
    rcases h with rfl | rfl | rfl <;> decide

/-- It makes no difference to lower the letters first. -/
theorem normalizeSpelling_eq_trim (text : String) :
    normalizeSpelling text = String.ofList (Text.trim (text.toList.map Text.lowerAscii)) := by
  -- Lowering a letter does not make a blank of it, nor the other way round.
  have hlower := (Text.trims_trim text.toList).map Text.isBlank_lowerAscii
  rw [normalizeSpelling, hlower.trim_eq]

/-- White space around a text and the case of its letters do not enter
the compared form. -/
theorem normalizeSpelling_pad {front other back text : String}
    (hfront : ∀ c ∈ front.toList, Text.isBlank c) (hback : ∀ c ∈ back.toList, Text.isBlank c)
    (hcase : other.toList.map Text.lowerAscii = text.toList.map Text.lowerAscii) :
    normalizeSpelling (front ++ other ++ back) = normalizeSpelling text := by
  have htrim := ((Text.trims_trim other.toList).pad hfront hback).trim_eq
  calc normalizeSpelling (front ++ other ++ back)
      = String.ofList ((Text.trim other.toList).map Text.lowerAscii) := by
        rw [normalizeSpelling, String.toList_append, String.toList_append, htrim]
    _ = String.ofList (Text.trim (other.toList.map Text.lowerAscii)) :=
        normalizeSpelling_eq_trim other
    _ = normalizeSpelling text := by rw [hcase, normalizeSpelling_eq_trim]

/-! ### Typed texts -/

variable {α : Type}

/-- A typed text is understood if its compared form is a word. -/
theorem parse_eq_ok_iff {text : String} {norm : Norm} :
    (parse text : Checked α Norm) = .ok norm ↔ ofWord? (normalizeSpelling text) = some norm := by
  rw [parse]
  cases ofWord? (normalizeSpelling text) <;> simp

/-- Otherwise the compared form is reported. -/
theorem parse_eq_error_iff {text : String} {error : Error α} :
    parse text = .error error ↔ ofWord? (normalizeSpelling text) = none
      ∧ error = .unrecognized "norm type" (normalizeSpelling text) := by
  rw [parse]
  cases ofWord? (normalizeSpelling text) <;> simp [eq_comm]

/-- The two readers of a norm agree. What an option file may say is
understood in the same way if it is typed. A text that is typed is
understood if its compared form, which is what remains of it without the
white space at both ends, in lower case, may stand in an option file, and
means the same norm; otherwise the compared form is reported. White space
around a text and the case of its letters are of no account. -/
theorem parse_agrees_with_document (text : String) :
    (∀ norm, ofDocument? (.string (some text)) = some norm →
        (parse text : Checked α Norm) = .ok norm)
      ∧ (∃ middle, Text.Trims text.toList middle
        ∧ normalizeSpelling text = String.ofList (middle.map Text.lowerAscii))
      ∧ (∀ norm, (parse text : Checked α Norm) = .ok norm
        ↔ ofDocument? (.string (some (normalizeSpelling text))) = some norm)
      ∧ (∀ error : Error α, parse text = .error error
        ↔ ofDocument? (.string (some (normalizeSpelling text))) = none
          ∧ error = .unrecognized "norm type" (normalizeSpelling text))
      ∧ ∀ front other back : String, (∀ c ∈ front.toList, Text.isBlank c) →
        (∀ c ∈ back.toList, Text.isBlank c) →
        other.toList.map Text.lowerAscii = text.toList.map Text.lowerAscii →
        (parse (front ++ other ++ back) : Checked α Norm) = parse text := by
  refine ⟨?_, ?_, ?_, ?_, ?_⟩
  · intro norm hread
    rw [ofDocument?_string] at hread
    rw [parse_eq_ok_iff, normalizeSpelling_of_mem (ofWord?_eq_some_iff.1 hread), hread]
  · exact ⟨Text.trim text.toList, Text.trims_trim text.toList, rfl⟩
  · intro norm
    rw [ofDocument?_string, parse_eq_ok_iff]
  · intro error
    rw [ofDocument?_string, parse_eq_error_iff]
  · intro front other back hfront hback hcase
    rw [parse, parse, normalizeSpelling_pad hfront hback hcase]

/-- A spelling in mixed case between blanks of several kinds. -/
theorem parse_agrees_with_document_infinity :
    ofDocument? (.string (some "infinity")) = some .max
      ∧ (parse "infinity" : Checked ℕ Norm) = .ok .max
      ∧ (∀ c ∈ "\u3000\t".toList, Text.isBlank c) ∧ (∀ c ∈ "\n".toList, Text.isBlank c)
      ∧ (parse ("\u3000\t" ++ "InFiniTY" ++ "\n") : Checked ℕ Norm) = parse "infinity" := by
  have hread : ofDocument? (.string (some "infinity")) = some .max := rfl
  -- An ideographic space and a tab in front, a line break behind.
  have hfront : ∀ c ∈ "\u3000\t".toList, Text.isBlank c := List.all_eq_true.1 (by decide)
  have hback : ∀ c ∈ "\n".toList, Text.isBlank c := List.all_eq_true.1 (by decide)
  obtain ⟨hok, -, -, -, hpad⟩ := parse_agrees_with_document (α := ℕ) "infinity"
  exact ⟨hread, hok .max hread, hfront, hback,
    hpad "\u3000\t" "InFiniTY" "\n" hfront hback (by decide)⟩

end InteriorPoint.Norm
