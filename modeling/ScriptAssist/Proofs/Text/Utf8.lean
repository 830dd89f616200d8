import ScriptAssist.Text.Utf8

namespace ScriptAssist.Text.Utf8

theorem toNat_ofNat {n : Nat} (h : n < 256) : (UInt8.ofNat n).toNat = n := by
  rw [UInt8.toNat_ofNat', Nat.mod_eq_of_lt h]

/-- A byte within the bounds gives its six bits to the character. -/
theorem follow_cons {count low high value seen byte : Nat} (lower : low ≤ byte)
    (upper : byte ≤ high) (bound : byte < 256) (bytes : List UInt8) :
    follow (count + 1) low high value seen (UInt8.ofNat byte :: bytes) =
      follow count 0x80 0xBF (64 * value + byte % 64) (seen + 1) bytes := by
  rw [follow, toNat_ofNat bound, if_pos ⟨lower, upper⟩]

theorem follow_zero (low high seen : Nat) {value : Nat} {c : Char} (h : value = c.toNat)
    (bytes : List UInt8) : follow 0 low high value seen bytes = .char c seen := by
  rw [follow, h, Char.ofNat_toNat]

theorem firstPiece_lead {byte count low high value : Nat} (bound : byte < 256)
    (above : 0x80 ≤ byte) (h : lead? byte = some (count, low, high, value)) (bytes : List UInt8) :
    firstPiece (UInt8.ofNat byte) bytes = follow count low high value 1 bytes := by
  rw [firstPiece, toNat_ofNat bound, if_neg (by omega), h]

/-- The bytes of a character are read as that character, whatever follows. -/
theorem firstPiece_encode (c : Char) (rest : List UInt8) :
    ∃ byte bytes, String.utf8EncodeChar c = byte :: bytes ∧
      firstPiece byte (bytes ++ rest) = .char c (bytes.length + 1) := by
  have range : c.toNat < 0xD800 ∨ 0xDFFF < c.toNat ∧ c.toNat < 0x110000 := c.valid
  simp only [String.utf8EncodeChar, Char.toNat_val]
  generalize hv : c.toNat = v at range
  split
  · case isTrue one =>
    refine ⟨_, [], rfl, ?_⟩
    rw [firstPiece, toNat_ofNat (by omega), if_pos (by omega), ← hv, Char.ofNat_toNat]
    rfl
  split
  · case isTrue two =>
    refine ⟨_, _, rfl, ?_⟩
    have lead : lead? (v / 64 % 32 + 192) = some (1, 0x80, 0xBF, v / 64 % 32) := by
      rw [lead?, if_neg (by omega), if_pos (by omega), Nat.add_sub_cancel]
    rw [firstPiece_lead (by omega) (by omega) lead, List.cons_append,
      follow_cons (by omega) (by omega) (by omega), follow_zero _ _ _ (show _ = c.toNat by omega)]
    rfl
  split
  · case isTrue three =>
    refine ⟨_, _, rfl, ?_⟩
    have lead : lead? (v / 4096 % 16 + 224) =
        some (2, if v / 4096 % 16 + 224 = 0xE0 then 0xA0 else 0x80,
          if v / 4096 % 16 + 224 = 0xED then 0x9F else 0xBF, v / 4096 % 16) := by
      rw [lead?, if_neg (by omega), if_neg (by omega), if_pos (by omega), Nat.add_sub_cancel]
    rw [firstPiece_lead (by omega) (by omega) lead, List.cons_append,
      follow_cons (by split <;> omega) (by split <;> omega) (by omega), List.cons_append,
      follow_cons (by omega) (by omega) (by omega), follow_zero _ _ _ (show _ = c.toNat by omega)]
    rfl
  · case isFalse four =>
    refine ⟨_, _, rfl, ?_⟩
    have lead : lead? (v / 262144 % 8 + 240) =
        some (3, if v / 262144 % 8 + 240 = 0xF0 then 0x90 else 0x80,
          if v / 262144 % 8 + 240 = 0xF4 then 0x8F else 0xBF, v / 262144 % 8) := by
      rw [lead?, if_neg (by omega), if_neg (by omega), if_neg (by omega), if_pos (by omega),
        Nat.add_sub_cancel]
    rw [firstPiece_lead (by omega) (by omega) lead, List.cons_append,
      follow_cons (by split <;> omega) (by split <;> omega) (by omega), List.cons_append,
      follow_cons (by omega) (by omega) (by omega), List.cons_append,
      follow_cons (by omega) (by omega) (by omega), follow_zero _ _ _ (show _ = c.toNat by omega)]
    rfl

theorem pieces_encode (text : List Char) :
    pieces (encode text) =
      text.map fun c => .char c (String.utf8EncodeChar c).length := by
  induction text with
  | nil => simp [encode, pieces]
  | cons c text ih =>
    obtain ⟨byte, bytes, encoded, first⟩ := firstPiece_encode c (encode text)
    have whole : encode (c :: text) = byte :: (bytes ++ encode text) := by
      rw [encode, List.flatMap_cons, encoded]
      rfl
    rw [whole, pieces, first, Piece.size, Nat.add_sub_cancel, List.drop_left, ih, List.map_cons,
      encoded]
    rfl

theorem characters_chars (bytes : List UInt8) (offset : Nat) (text : List Char)
    (size : Char → Nat) :
    characters bytes offset (text.map fun c => .char c (size c)) = .ok text := by
  induction text generalizing offset with
  | nil => rfl
  | cons c text ih => rw [List.map_cons, characters, ih]

/-- Reading the bytes of a text gives the text. -/
theorem decode_encode (text : List Char) : decode (encode text) = .ok text := by
  rw [decode, pieces_encode, characters_chars]

end ScriptAssist.Text.Utf8
