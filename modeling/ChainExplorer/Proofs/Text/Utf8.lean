import ChainExplorer.Text.Utf8

set_option autoImplicit false

namespace ChainExplorer.Text

theorem byte_value (value : Nat) (small : value < 256) : (UInt8.ofNat value).toNat = value := by
  rw [UInt8.toNat_ofNat', Nat.mod_eq_of_lt small]

theorem character_value (value : Nat) (valid : value.isValidChar) : (Char.ofNat value).toNat = value := by
  unfold Char.ofNat
  rw [dif_pos valid]
  rfl

theorem read_last (started : Started) (byte : UInt8) (rest : Bytes) (last : started.missing ≤ 1)
    (inside : started.low ≤ byte.toNat ∧ byte.toNat ≤ started.high) :
    readRest started (byte :: rest) = Char.ofNat (started.bits * 64 + (byte.toNat - 0x80)) :: readUtf8 rest := by
  rw [readRest, if_pos inside]
  dsimp only
  rw [if_pos last]

theorem read_more (started : Started) (byte : UInt8) (rest : Bytes) (more : 1 < started.missing)
    (inside : started.low ≤ byte.toNat ∧ byte.toNat ≤ started.high) :
    readRest started (byte :: rest) =
      readRest ⟨started.missing - 1, 0x80, 0xBF, started.bits * 64 + (byte.toNat - 0x80)⟩ rest := by
  rw [readRest, if_pos inside]
  dsimp only
  rw [if_neg (Nat.not_le_of_lt more)]

theorem read_started (byte : UInt8) (rest : Bytes) (started : Started) (first : firstByte byte = .start started) :
    readUtf8 (byte :: rest) = readRest started rest := by
  rw [readUtf8, first]

theorem read_whole (byte : UInt8) (rest : Bytes) (single : byte.toNat < 0x80) :
    readUtf8 (byte :: rest) = Char.ofNat byte.toNat :: readUtf8 rest := by
  have first : firstByte byte = .whole (Char.ofNat byte.toNat) := by
    unfold firstByte
    dsimp only
    rw [if_pos single]
  rw [readUtf8, first]

theorem first_of_two (byte : UInt8) (bounds : 0xC2 ≤ byte.toNat ∧ byte.toNat ≤ 0xDF) :
    firstByte byte = .start ⟨1, 0x80, 0xBF, byte.toNat - 0xC0⟩ := by
  unfold firstByte
  dsimp only
  rw [if_neg (by omega), if_pos (by simpa using bounds)]

theorem first_of_three (byte : UInt8) (bounds : 0xE0 ≤ byte.toNat ∧ byte.toNat ≤ 0xEF) :
    firstByte byte = .start ⟨2, if byte.toNat = 0xE0 then 0xA0 else 0x80,
      if byte.toNat = 0xED then 0x9F else 0xBF, byte.toNat - 0xE0⟩ := by
  unfold firstByte
  dsimp only
  rw [if_neg (by omega), if_neg (by simp; omega), if_pos (by simpa using bounds)]

theorem first_of_four (byte : UInt8) (bounds : 0xF0 ≤ byte.toNat ∧ byte.toNat ≤ 0xF4) :
    firstByte byte = .start ⟨3, if byte.toNat = 0xF0 then 0x90 else 0x80,
      if byte.toNat = 0xF4 then 0x8F else 0xBF, byte.toNat - 0xF0⟩ := by
  unfold firstByte
  dsimp only
  rw [if_neg (by omega), if_neg (by simp; omega), if_neg (by simp; omega), if_pos (by simpa using bounds)]

theorem character_valid (c : Char) : c.toNat < 0xD800 ∨ (0xDFFF < c.toNat ∧ c.toNat < 0x110000) := c.valid

theorem encoded_single (c : Char) (single : c.toNat < 0x80) :
    String.utf8EncodeChar c = [UInt8.ofNat c.toNat] :=
  if_pos (Nat.le_of_lt_succ single)

theorem encoded_double (c : Char) (bounds : 0x80 ≤ c.toNat ∧ c.toNat < 0x800) :
    String.utf8EncodeChar c = [UInt8.ofNat (c.toNat / 64 % 32 + 192), UInt8.ofNat (c.toNat % 64 + 128)] :=
  (if_neg (Nat.not_le_of_lt bounds.1)).trans (if_pos (Nat.le_of_lt_succ bounds.2))

theorem encoded_triple (c : Char) (bounds : 0x800 ≤ c.toNat ∧ c.toNat < 0x10000) :
    String.utf8EncodeChar c = [UInt8.ofNat (c.toNat / 4096 % 16 + 224), UInt8.ofNat (c.toNat / 64 % 64 + 128),
      UInt8.ofNat (c.toNat % 64 + 128)] := by
  have large : 0x7F < c.toNat := by omega
  exact (if_neg (Nat.not_le_of_lt large)).trans
    ((if_neg (Nat.not_le_of_lt bounds.1)).trans (if_pos (Nat.le_of_lt_succ bounds.2)))

theorem encoded_quadruple (c : Char) (large : 0x10000 ≤ c.toNat) :
    String.utf8EncodeChar c = [UInt8.ofNat (c.toNat / 262144 % 8 + 240), UInt8.ofNat (c.toNat / 4096 % 64 + 128),
      UInt8.ofNat (c.toNat / 64 % 64 + 128), UInt8.ofNat (c.toNat % 64 + 128)] := by
  have first : 0x7F < c.toNat := by omega
  have second : 0x7FF < c.toNat := by omega
  exact (if_neg (Nat.not_le_of_lt first)).trans
    ((if_neg (Nat.not_le_of_lt second)).trans (if_neg (Nat.not_le_of_lt large)))

-- A byte below the first 128 is a character by itself, and no part of another.
theorem byte_of_single (c : Char) (byte : UInt8) (member : byte ∈ String.utf8EncodeChar c) (low : byte.toNat < 0x80) :
    c.toNat = byte.toNat := by
  have valid := character_valid c
  have trailing (value : Nat) : (UInt8.ofNat (value % 64 + 128)).toNat = value % 64 + 128 := byte_value _ (by omega)
  by_cases single : c.toNat < 0x80
  · rw [encoded_single c single, List.mem_singleton] at member
    rw [member, byte_value c.toNat (by omega)]
  exfalso
  by_cases double : c.toNat < 0x800
  · have first := byte_value (c.toNat / 64 % 32 + 192) (by omega)
    rw [encoded_double c ⟨by omega, double⟩, List.mem_cons, List.mem_singleton] at member
    rcases member with rfl | rfl
    · omega
    · rw [trailing] at low
      omega
  by_cases triple : c.toNat < 0x10000
  · have first := byte_value (c.toNat / 4096 % 16 + 224) (by omega)
    rw [encoded_triple c ⟨by omega, triple⟩, List.mem_cons, List.mem_cons, List.mem_singleton] at member
    rcases member with rfl | rfl | rfl
    · omega
    all_goals
      rw [trailing] at low
      omega
  · have first := byte_value (c.toNat / 262144 % 8 + 240) (by omega)
    rw [encoded_quadruple c (by omega), List.mem_cons, List.mem_cons, List.mem_cons, List.mem_singleton] at member
    rcases member with rfl | rfl | rfl | rfl
    · omega
    all_goals
      rw [trailing] at low
      omega

-- A mark of the first 128 is among the bytes of a text if it is in the text.
theorem mark_of_byte (text : List Char) (mark : Char) (low : mark.toNat < 0x80)
    (member : UInt8.ofNat mark.toNat ∈ utf8 text) : mark ∈ text := by
  obtain ⟨c, inside, here⟩ := List.mem_flatMap.mp member
  have value := byte_value mark.toNat (by omega)
  have same := byte_of_single c _ here (by omega)
  rw [value] at same
  have equal : c = mark := Char.ext (UInt32.toNat_inj.mp same)
  exact equal ▸ inside

theorem utf8_append (front back : List Char) : utf8 (front ++ back) = utf8 front ++ utf8 back := List.flatMap_append

theorem read_character (c : Char) (rest : Bytes) :
    readUtf8 (String.utf8EncodeChar c ++ rest) = c :: readUtf8 rest := by
  have valid := character_valid c
  have low := byte_value (c.toNat % 64 + 128) (by omega)
  have middle := byte_value (c.toNat / 64 % 64 + 128) (by omega)
  have high := byte_value (c.toNat / 4096 % 64 + 128) (by omega)
  by_cases single : c.toNat < 0x80
  · have value := byte_value c.toNat (by omega)
    rw [encoded_single c single, List.singleton_append, read_whole _ rest (by omega), value, Char.ofNat_toNat]
  by_cases double : c.toNat < 0x800
  · have first := byte_value (c.toNat / 64 % 32 + 192) (by omega)
    rw [encoded_double c ⟨by omega, double⟩, List.cons_append, List.cons_append, List.nil_append,
      read_started _ _ _ (first_of_two _ (by omega)), read_last _ _ rest (by simp) (by simp; omega), low, first]
    dsimp only
    rw [show (c.toNat / 64 % 32 + 192 - 0xC0) * 64 + (c.toNat % 64 + 128 - 0x80) = c.toNat by omega, Char.ofNat_toNat]
  by_cases triple : c.toNat < 0x10000
  · have first := byte_value (c.toNat / 4096 % 16 + 224) (by omega)
    rw [encoded_triple c ⟨by omega, triple⟩, List.cons_append, List.cons_append, List.cons_append, List.nil_append,
      read_started _ _ _ (first_of_three _ (by omega)), read_more _ _ _ (by simp) ?_,
      read_last _ _ rest (by simp) (by simp; omega), low, middle, first]
    · dsimp only
      rw [show ((c.toNat / 4096 % 16 + 224 - 0xE0) * 64 + (c.toNat / 64 % 64 + 128 - 0x80)) * 64 +
        (c.toNat % 64 + 128 - 0x80) = c.toNat by omega, Char.ofNat_toNat]
    · simp only
      rw [middle, first]
      split <;> split <;> omega
  · have first := byte_value (c.toNat / 262144 % 8 + 240) (by omega)
    rw [encoded_quadruple c (by omega), List.cons_append, List.cons_append, List.cons_append, List.cons_append,
      List.nil_append, read_started _ _ _ (first_of_four _ (by omega)), read_more _ _ _ (by simp) ?_,
      read_more _ _ _ (by simp) (by simp; omega), read_last _ _ rest (by simp) (by simp; omega), low, middle, high, first]
    · dsimp only
      rw [show (((c.toNat / 262144 % 8 + 240 - 0xF0) * 64 + (c.toNat / 4096 % 64 + 128 - 0x80)) * 64 +
        (c.toNat / 64 % 64 + 128 - 0x80)) * 64 + (c.toNat % 64 + 128 - 0x80) = c.toNat by omega, Char.ofNat_toNat]
    · simp only
      rw [high, first]
      split <;> split <;> omega

theorem read_utf8 (text : List Char) : readUtf8 (utf8 text) = text := by
  induction text with
  | nil => rw [utf8, List.flatMap_nil, readUtf8]
  | cons c rest ih =>
      rw [utf8, List.flatMap_cons, read_character]
      exact congrArg _ ih

end ChainExplorer.Text
