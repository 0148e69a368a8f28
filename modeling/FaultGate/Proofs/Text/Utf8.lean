import FaultGate.Text.Utf8

/-!
# What is written in UTF-8 is read back

Every text that the program takes in comes as bytes, and every text it sends
goes out as bytes, so each law about what a text means has to pass the encoding
once. This file passes it: the pieces of an encoded text are its characters and
nothing is broken among them, so that the strict reader and the forgiving one
both return the text they were given.

The readers run on fuel, one unit for each byte. A character is taken off with
all of its bytes, and it has one at least, so the bytes that are left always
cover the fuel that is left.
-/

namespace FaultGate.Text

/-- A reader holds what it has read with the last part first. -/
theorem reverse_cons_append {α : Type} (x : α) (done rest : List α) :
    (x :: done).reverse ++ rest = done.reverse ++ x :: rest := by
  rw [List.reverse_cons, List.append_assoc, List.singleton_append]

theorem utf8_ofList (chars : List Char) :
    utf8 (String.ofList chars) = chars.flatMap String.utf8EncodeChar := by
  rw [utf8, String.toList_ofList]

/-- No encoding is longer than the four bytes that the reader looks at. -/
theorem firstChar?_encode_append (c : Char) (rest : List UInt8) :
    firstChar? (String.utf8EncodeChar c ++ rest) = some c := by
  have hlen : (String.utf8EncodeChar c).length ≤ 4 := by
    rw [String.length_utf8EncodeChar]
    exact c.utf8Size_le_four
  rw [firstChar?, List.take_append, List.take_of_length_le hlen,
    List.toByteArray_append, ByteArray.utf8DecodeChar?_utf8EncodeChar_append]

theorem piecesFrom_encode (chars : List Char) : ∀ (done : Pieces) (fuel : Nat),
    (chars.flatMap String.utf8EncodeChar).length ≤ fuel →
    piecesFrom done fuel (chars.flatMap String.utf8EncodeChar) =
      done.reverse ++ chars.map some := by
  induction chars with
  | nil =>
      intro done fuel _
      rw [List.flatMap_nil, piecesFrom, List.map_nil, List.append_nil]
  | cons c chars ih =>
      intro done fuel hfuel
      have hsize := String.length_utf8EncodeChar c
      have hpos := c.utf8Size_pos
      rw [List.flatMap_cons, List.length_append] at hfuel
      obtain ⟨fuel, rfl⟩ : ∃ less, fuel = less + 1 := ⟨fuel - 1, by omega⟩
      obtain ⟨b, bytes, hb⟩ :=
        List.exists_cons_of_length_pos (l := String.utf8EncodeChar c) (by omega)
      have hfirst := firstChar?_encode_append c (chars.flatMap String.utf8EncodeChar)
      have hdrop : (String.utf8EncodeChar c ++
          chars.flatMap String.utf8EncodeChar).drop c.utf8Size =
            chars.flatMap String.utf8EncodeChar := by
        rw [← hsize, List.drop_left]
      rw [List.flatMap_cons]
      rw [hb, List.cons_append] at hfirst hdrop ⊢
      rw [piecesFrom, hfirst]
      simp only [hdrop]
      rw [ih (some c :: done) fuel (by omega), reverse_cons_append, List.map_cons]

theorem pieces_utf8 (s : String) : pieces (utf8 s) = s.toList.map some := by
  rw [pieces, utf8, piecesFrom_encode _ _ _ (Nat.le_refl _), List.reverse_nil,
    List.nil_append]

theorem decode?_utf8 (s : String) : decode? (utf8 s) = some s := by
  have hall : ∀ chars : List Char, (chars.map some).mapM id = some chars := by
    intro chars
    induction chars with
    | nil => rfl
    | cons c chars ih =>
        rw [List.map_cons, List.mapM_cons, ih]
        rfl
  rw [decode?, pieces_utf8, hall, Option.map_some, String.ofList_toList]

theorem decodeLossy_utf8 (s : String) : decodeLossy (utf8 s) = s := by
  have hall : (s.toList.map some).map (fun p : Option Char => p.getD '\uFFFD') =
      s.toList := by
    rw [List.map_map]
    exact List.map_id _
  rw [decodeLossy, pieces_utf8, hall, String.ofList_toList]

/-- A character that bytes start with stands there in its encoding. -/
theorem encode_append_of_firstChar? {bytes : List UInt8} {c : Char}
    (h : firstChar? bytes = some c) :
    bytes = String.utf8EncodeChar c ++ bytes.drop c.utf8Size := by
  have htake := congrArg (fun b => b.data.toList)
    (ByteArray.eq_of_utf8DecodeChar?_eq_some h)
  simp only [ByteArray.data_append, Array.toList_append,
    List.toList_data_toByteArray] at htake
  have hbytes := List.take_append_drop 4 bytes
  rw [htake, List.append_assoc] at hbytes
  have hsize := String.length_utf8EncodeChar c
  rw [← hbytes, ← hsize, List.drop_left]

theorem piecesFrom_eq_append (done : Pieces) (fuel : Nat) (bytes : List UInt8) :
    piecesFrom done fuel bytes = done.reverse ++ piecesFrom [] fuel bytes := by
  induction fuel generalizing done bytes with
  | zero => cases bytes <;> simp [piecesFrom]
  | succ fuel ih =>
      cases bytes with
      | nil => simp [piecesFrom]
      | cons b rest =>
          rw [piecesFrom, piecesFrom]
          split
          · rw [ih, ih [some _]]
            simp
          · rw [ih, ih [none]]
            simp

theorem eq_encode_of_piecesFrom {chars : List Char} : ∀ {fuel : Nat} {bytes : List UInt8},
    bytes.length ≤ fuel → piecesFrom [] fuel bytes = chars.map some →
    bytes = chars.flatMap String.utf8EncodeChar := by
  induction chars with
  | nil =>
      intro fuel bytes hfuel h
      cases bytes with
      | nil => rfl
      | cons b rest =>
          rw [List.length_cons] at hfuel
          obtain ⟨fuel, rfl⟩ : ∃ less, fuel = less + 1 := ⟨fuel - 1, by omega⟩
          rw [piecesFrom] at h
          -- a first piece of either kind is one too many
          split at h
          · rw [piecesFrom_eq_append] at h
            cases h
          · rw [piecesFrom_eq_append] at h
            cases h
  | cons c chars ih =>
      intro fuel bytes hfuel h
      cases bytes with
      | nil =>
          rw [piecesFrom] at h
          cases h
      | cons b rest =>
          rw [List.length_cons] at hfuel
          obtain ⟨fuel, rfl⟩ : ∃ less, fuel = less + 1 := ⟨fuel - 1, by omega⟩
          rw [piecesFrom] at h
          split at h
          · rename_i d hd
            have hdpos := d.utf8Size_pos
            rw [piecesFrom_eq_append, List.reverse_singleton, List.singleton_append,
              List.map_cons] at h
            injection h with hc hrest
            injection hc with hc
            subst hc
            have hlen : ((b :: rest).drop d.utf8Size).length ≤ fuel := by
              rw [List.length_drop, List.length_cons]
              omega
            rw [List.flatMap_cons, ← ih hlen hrest]
            exact encode_append_of_firstChar? hd
          · rw [piecesFrom_eq_append, List.map_cons] at h
            cases h

/-- Bytes with no broken piece are the encoding of their characters. -/
theorem eq_utf8_of_pieces {bytes : List UInt8} {chars : List Char}
    (h : pieces bytes = chars.map some) : bytes = utf8 (String.ofList chars) := by
  rw [utf8_ofList]
  exact eq_encode_of_piecesFrom (Nat.le_refl _) h

theorem utf8_injective {s t : String} (h : utf8 s = utf8 t) : s = t := by
  have hs := decode?_utf8 s
  rw [h, decode?_utf8] at hs
  injection hs with hs
  exact hs.symm

end FaultGate.Text
