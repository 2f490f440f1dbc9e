import InteriorPoint.Proofs.Scalar.Binary64
import InteriorPoint.Proofs.Scalar.Exact

/-!
# `InteriorPoint.Proofs.Scalar.Infinity`: finite numbers and the two infinities

Finite values are numbers (`LawfulFinite`), in exact arithmetic and in binary64.
The other numbers of binary64 are its two infinities
(`eq_infinity_or_eq_negInfinity`), with every number between them
(`negInfinity_le`, `le_infinity`).

That an infinity has only one encoding is not seen from the comparisons, which
read the unpacked form. Only undefined values have several encodings for one
unpacked form (`eq_of_unpacked_eq`).
-/

set_option autoImplicit false

namespace InteriorPoint

/-- What is finite is a number. -/
class LawfulFinite (α : Type) [Scalar α] : Prop where
  isNumber_of_isFinite : ∀ {a : α}, Scalar.isFinite a = true → Scalar.IsNumber a

/-- In exact arithmetic every value is a number. -/
instance {K : Type} [Field K] [LinearOrder K] [ExactFunctions K] : LawfulFinite K where
  isNumber_of_isFinite _ := le_refl _

namespace Binary64

open Float.Model (UnpackedFloat)

/-- Being finite is read off the unpacked form. -/
theorem isFinite_iff (a : Binary64) : Scalar.isFinite a = true ↔ a.unpacked.isFinite = true :=
  Iff.rfl

/-- A finite value of binary64 is not undefined, by the cases of its form.
-/
instance : LawfulFinite Binary64 where
  isNumber_of_isFinite {a} h := by
    rw [isFinite_iff] at h
    rw [isNumber_iff]
    -- The undefined value is the only one that is no number.
    cases hform : a.unpacked with
    | notANumber =>
        rw [hform] at h
        cases h
    | infinity _ => rfl
    | zero _ => rfl
    | finite _ _ _ _ => rfl

/-- Taking the value of a number loses nothing of its encoding. -/
theorem toBits_toFloat {a : Binary64} (ha : Scalar.IsNumber a) : a.toFloat.toBits = a.bits := by
  have hpacked : a.toFloat.toBits.toBitVec
      = if @UnpackedFloat.isNaNBits .binary64 a.bits.toBitVec
        then UnpackedFloat.packedNaN .binary64 else a.bits.toBitVec :=
    UnpackedFloat.pack_unpack _
  split at hpacked
  · -- The encodings of the undefined value are the ones that are replaced.
    have hundefined : a.unpacked.isNaN = true :=
      (UnpackedFloat.isNaN_unpack_iff_of_valid a.toFloat.toModel.valid).2 hpacked
    rw [(isNumber_iff a).1 ha] at hundefined
    cases hundefined
  · exact UInt64.toBitVec_inj.1 hpacked

/-- Numbers of one unpacked form have one encoding. -/
theorem eq_of_unpacked_eq {a b : Binary64} (ha : Scalar.IsNumber a)
    (h : a.unpacked = b.unpacked) : a = b := by
  have hb : Scalar.IsNumber b := by
    rw [isNumber_iff, ← h]
    exact (isNumber_iff a).1 ha
  -- The model packs what it has unpacked, so the encodings agree.
  have hbits : a.toFloat.toBits.toBitVec = b.toFloat.toBits.toBitVec :=
    (UnpackedFloat.unpack_inj_of_valid a.toFloat.toModel.valid b.toFloat.toModel.valid).1 h
  rw [toBits_toFloat ha, toBits_toFloat hb, UInt64.toBitVec_inj] at hbits
  cases a
  cases b
  exact congrArg Binary64.mk hbits

/-! ### Infinities -/

/-- Positive infinity. -/
def infinity : Binary64 :=
  ⟨0x7FF0000000000000⟩

/-- Negative infinity. -/
def negInfinity : Binary64 :=
  ⟨0xFFF0000000000000⟩

/-- The form of positive infinity. -/
theorem unpacked_infinity : infinity.unpacked = .infinity .positive := rfl

/-- The form of negative infinity. -/
theorem unpacked_negInfinity : negInfinity.unpacked = .infinity .negative := rfl

/-- A number that is not finite is one of the infinities. -/
theorem eq_infinity_or_eq_negInfinity {a : Binary64} (ha : Scalar.IsNumber a)
    (h : Scalar.isFinite a = false) : a = infinity ∨ a = negInfinity := by
  have hform : a.unpacked.isFinite = false := h
  -- The undefined value and the finite forms are excluded by assumption.
  cases hunpacked : a.unpacked with
  | notANumber =>
      rw [isNumber_iff, hunpacked] at ha
      cases ha
  | infinity sign =>
      cases sign with
      | positive => exact .inl (eq_of_unpacked_eq ha (hunpacked.trans unpacked_infinity.symm))
      | negative => exact .inr (eq_of_unpacked_eq ha (hunpacked.trans unpacked_negInfinity.symm))
  | zero _ =>
      rw [hunpacked] at hform
      cases hform
  | finite _ _ _ _ =>
      rw [hunpacked] at hform
      cases hform

/-- Every number is at most positive infinity. -/
theorem le_infinity {a : Binary64} (ha : Scalar.IsNumber a) : a ≤ infinity := by
  rw [isNumber_iff] at ha
  rw [le_iff, le_iff_position, unpacked_infinity]
  refine ⟨ha, rfl, ?_⟩
  -- The position of infinity is above that of every form.
  rcases a.unpacked with (_ | _) | _ | _ | ⟨(_ | _), _, _, _⟩ <;>
    simp [position, Prod.Lex.toLex_le_toLex]

/-- Every number is at least negative infinity. -/
theorem negInfinity_le {a : Binary64} (ha : Scalar.IsNumber a) : negInfinity ≤ a := by
  rw [isNumber_iff] at ha
  rw [le_iff, le_iff_position, unpacked_negInfinity]
  refine ⟨rfl, ha, ?_⟩
  rcases a.unpacked with (_ | _) | _ | _ | ⟨(_ | _), _, _, _⟩ <;>
    simp [position, Prod.Lex.toLex_le_toLex]

end Binary64

end InteriorPoint
