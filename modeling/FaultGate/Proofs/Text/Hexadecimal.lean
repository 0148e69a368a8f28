import FaultGate.Form
import FaultGate.Json.Text
import FaultGate.Json.Value

/-!
# Hexadecimal digits

Form text and JSON text both write characters as hexadecimal digits, each with
a reader of its own, one for bytes and one for characters. What a digit is does
not depend on either of them, and the two readers are compared with that.
-/

namespace FaultGate

namespace Text

theorem char_le_iff {c d : Char} : c ≤ d ↔ c.toNat ≤ d.toNat :=
  Iff.rfl

/-- A hexadecimal digit in either case, as the number of its character or of its
byte, and its value. -/
def HexDigit (code n : Nat) : Prop :=
  (n < 10 ∧ code = 0x30 + n) ∨
    (10 ≤ n ∧ n < 16 ∧ (code = 0x37 + n ∨ code = 0x57 + n))

theorem HexDigit.lt {code n : Nat} (h : HexDigit code n) : n < 16 := by
  obtain ⟨h, _⟩ | ⟨_, h, _⟩ := h
  · omega
  · exact h

end Text

open Text (HexDigit)

theorem Json.hexValue?_eq_some_iff {c : Char} {n : Nat} :
    hexValue? (some c) = some n ↔ HexDigit c.toNat n := by
  rw [hexValue?, HexDigit]
  simp only [Text.char_le_iff, Bool.and_eq_true, decide_eq_true_eq, Char.reduceToNat]
  split
  · rw [Option.some.injEq]
    omega
  · split
    · rw [Option.some.injEq]
      omega
    · split
      · rw [Option.some.injEq]
        omega
      · simp only [reduceCtorEq, false_iff]
        omega

theorem Form.hexValue?_eq_some_iff {b n : UInt8} :
    hexValue? b = some n ↔ HexDigit b.toNat n.toNat := by
  rw [hexValue?, HexDigit]
  simp only [UInt8.le_iff_toNat_le, Bool.and_eq_true, decide_eq_true_eq,
    UInt8.reduceToNat]
  split
  · rw [Option.some.injEq, ← UInt8.toNat_inj, UInt8.toNat_sub]
    simp only [UInt8.reduceToNat]
    omega
  · split
    · rw [Option.some.injEq, ← UInt8.toNat_inj, UInt8.toNat_sub]
      simp only [UInt8.reduceToNat]
      omega
    · split
      · rw [Option.some.injEq, ← UInt8.toNat_inj, UInt8.toNat_sub]
        simp only [UInt8.reduceToNat]
        omega
      · simp only [reduceCtorEq, false_iff]
        omega

/-- The digits that the writer of JSON uses are digits. -/
theorem Json.hexDigit_hexDigit {n : Nat} (h : n < 16) :
    HexDigit (Json.hexDigit n).toNat n := by
  have hall : ∀ m < 16, (m < 10 ∧ (Json.hexDigit m).toNat = 0x30 + m) ∨
      (10 ≤ m ∧ m < 16 ∧ ((Json.hexDigit m).toNat = 0x37 + m ∨
        (Json.hexDigit m).toNat = 0x57 + m)) := by
    decide
  exact hall n h

end FaultGate
