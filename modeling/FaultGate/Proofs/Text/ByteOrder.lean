import FaultGate.Text.Utf8
import Mathlib.Data.List.Lex
import Mathlib.Tactic.SplitIfs

/-!
# Texts come in the order of their bytes

Strings are compared character by character, and what is sorted outside of the
program is compared byte by byte. UTF-8 was made so that the two agree. Of two
characters the lesser one has the lesser first byte, or the same one, and then
the next byte decides in the same way. What follows either character has no say
in it, because no encoding is the start of another.
-/

namespace FaultGate.Text

/-- Lists of bytes compare by their first bytes, and where these are the same by
what follows. -/
theorem ofNat_cons_lt {m n : Nat} {xs ys : List UInt8} (hn : n < 256) (hle : m ≤ n)
    (hrest : m = n → xs < ys) : UInt8.ofNat m :: xs < UInt8.ofNat n :: ys := by
  by_cases heq : m = n
  · rw [heq]
    exact List.Lex.cons (hrest heq)
  · refine List.Lex.rel ?_
    rw [UInt8.lt_iff_toNat_lt, UInt8.toNat_ofNat', UInt8.toNat_ofNat',
      Nat.mod_eq_of_lt (by omega), Nat.mod_eq_of_lt hn]
    omega

theorem encode_append_lt {c d : Char} (h : c < d) (xs ys : List UInt8) :
    String.utf8EncodeChar c ++ xs < String.utf8EncodeChar d ++ ys := by
  have hcode : c.val.toNat < d.val.toNat := h
  have hmax : d.val.toNat < 0x110000 := by
    rcases d.valid with hd | ⟨_, hd⟩
    · exact Nat.lt_trans hd (by decide)
    · exact hd
  rw [String.utf8EncodeChar, String.utf8EncodeChar]
  generalize c.val.toNat = m at hcode ⊢
  generalize d.val.toNat = n at hcode hmax ⊢
  split_ifs
  -- the lesser character never has the longer encoding
  all_goals try omega
  all_goals simp only [List.cons_append, List.nil_append]
  -- a shorter encoding has the lesser first byte; of two that are as long, the
  -- bytes before the first that differs are the same
  all_goals repeat' refine ofNat_cons_lt (by omega) (by omega) fun _ => ?_
  all_goals omega

theorem flatMap_encode_lt {cs ds : List Char} (h : cs < ds) :
    cs.flatMap String.utf8EncodeChar < ds.flatMap String.utf8EncodeChar := by
  induction h with
  | @nil d ds =>
      obtain ⟨b, bytes, hb⟩ := List.exists_cons_of_ne_nil (String.utf8EncodeChar_ne_nil (c := d))
      rw [List.flatMap_nil, List.flatMap_cons, hb]
      exact List.Lex.nil
  | rel hcd =>
      rw [List.flatMap_cons, List.flatMap_cons]
      exact encode_append_lt hcd _ _
  | cons _ ih =>
      rw [List.flatMap_cons, List.flatMap_cons]
      exact List.Lex.append_left _ ih _

theorem utf8_lt_of_lt {s t : String} (h : s < t) : utf8 s < utf8 t :=
  flatMap_encode_lt h

end FaultGate.Text
