import ChainExplorer.Proofs.Json.Words
import ChainExplorer.Proofs.Text.Utf8
import ChainExplorer.Url.Percent
import Mathlib.Data.Bool.AllAny

set_option autoImplicit false

namespace ChainExplorer.Url

open Text (Bytes)
open Json (HexDigit)

instance (value : Nat) (c : Char) : Decidable (HexDigit value c) := inferInstanceAs (Decidable (_ ∧ _))

-- A byte as a percent sign and two hexadecimal digits of either case.
inductive EscapesByte : UInt8 → List Char → Prop where
  | digits (byte : UInt8) (high low : Char) (first : HexDigit (byte.toNat / 16) high)
      (second : HexDigit (byte.toNat % 16) low) : EscapesByte byte ['%', high, low]

def Escapes (bytes : Bytes) (source : List Char) : Prop :=
  ∃ codes, List.Forall₂ EscapesByte bytes codes ∧ source = codes.flatten

theorem encode_byte_escapes (byte : UInt8) : EscapesByte byte (encodeByte byte) := by
  have small := byte.toNat_lt
  exact .digits byte _ _ ⟨by omega, .inr rfl⟩ ⟨by omega, .inr rfl⟩

theorem encode_bytes_escape (bytes : Bytes) : Escapes bytes (bytes.flatMap encodeByte) := by
  refine ⟨bytes.map encodeByte, ?_, List.flatMap_def⟩
  exact List.forall₂_map_right_iff.mpr (List.forall₂_same.mpr fun byte _ => encode_byte_escapes byte)

theorem hex_digit_range (value : Nat) (c : Char) (digit : HexDigit value c) :
    (0x30 ≤ c.toNat ∧ c.toNat ≤ 0x39) ∨ (0x41 ≤ c.toNat ∧ c.toNat ≤ 0x46) ∨ (0x61 ≤ c.toNat ∧ c.toNat ≤ 0x66) := by
  obtain ⟨small, same⟩ := digit
  have lower : ∀ value < 16, (0x30 ≤ (Number.hexDigit value).toNat ∧ (Number.hexDigit value).toNat ≤ 0x39) ∨
      (0x61 ≤ (Number.hexDigit value).toNat ∧ (Number.hexDigit value).toNat ≤ 0x66) := by decide
  have upper : ∀ value < 16, (0x30 ≤ (Number.upperHexDigit value).toNat ∧ (Number.upperHexDigit value).toNat ≤ 0x39) ∨
      (0x41 ≤ (Number.upperHexDigit value).toNat ∧ (Number.upperHexDigit value).toNat ≤ 0x46) := by decide
  rcases same with rfl | rfl
  · exact (lower value small).imp_right .inr
  · exact (upper value small).imp_right .inl

-- A character in an escape is its percent sign or a digit.
theorem escapes_characters (bytes : Bytes) (source : List Char) (escapes : Escapes bytes source) :
    ∀ c ∈ source, c = '%' ∨ ∃ value, HexDigit value c := by
  obtain ⟨codes, each, rfl⟩ := escapes
  induction each with
  | nil => exact fun c member => nomatch member
  | cons code _ ih =>
      cases code with
      | digits high low first second =>
          intro c member
          rw [List.flatten_cons, List.mem_append, List.mem_cons, List.mem_cons, List.mem_singleton] at member
          rcases member with (rfl | rfl | rfl) | later
          · exact .inl rfl
          · exact .inr ⟨_, first⟩
          · exact .inr ⟨_, second⟩
          · exact ih c later

theorem decode_literal (byte : UInt8) (rest : Bytes) (literal : byte ≠ 0x25) :
    percentDecode (byte :: rest) = byte :: percentDecode rest := by
  match rest with
  | [] => rfl
  | [_] => rfl
  | _ :: _ :: _ => rw [percentDecode, if_neg literal]

theorem decode_digits (byte : UInt8) (high low : Char) (rest : Bytes) (first : HexDigit (byte.toNat / 16) high)
    (second : HexDigit (byte.toNat % 16) low) :
    percentDecode (0x25 :: UInt8.ofNat high.toNat :: UInt8.ofNat low.toNat :: rest) = byte :: percentDecode rest := by
  have highRange := hex_digit_range _ high first
  have lowRange := hex_digit_range _ low second
  have numeral : Number.hexNumeral? [high, low] = some byte.toNat := by
    simp only [Number.hexNumeral?, List.foldl_cons, List.foldl_nil, Json.hex_digit_value _ _ first,
      Json.hex_digit_value _ _ second]
    congr 1
    omega
  rw [percentDecode, if_pos rfl, Text.byte_value high.toNat (by omega), Text.byte_value low.toNat (by omega),
    Char.ofNat_toNat, Char.ofNat_toNat, numeral]
  dsimp only
  rw [UInt8.ofNat_toNat]

-- Escapes are left as they are.
def SparesEscapes (set : EncodeSet) : Prop :=
  mustEncode set '%' = false ∧ ∀ value c, HexDigit value c → mustEncode set c = false

theorem spares_escapes (set : EncodeSet) (ordinary : '%' ∉ set)
    (marks : ∀ mark ∈ set, mark.toNat < 0x30 ∨ (0x39 < mark.toNat ∧ mark.toNat < 0x41) ∨
      (0x46 < mark.toNat ∧ mark.toNat < 0x61) ∨ 0x66 < mark.toNat) : SparesEscapes set := by
  constructor
  · simp [mustEncode, ordinary]
  · intro value c digit
    have range := hex_digit_range value c digit
    have unlisted : c ∉ set := fun member => by
      have apart := marks c member
      omega
    have listed : set.contains c = false := by simpa using unlisted
    rw [mustEncode, listed, Bool.or_false, Bool.or_eq_false_iff, decide_eq_false_iff_not, decide_eq_false_iff_not]
    omega

theorem query_spares_escapes : SparesEscapes .specialQuery :=
  spares_escapes _ (by decide) (List.all_iff_forall_prop.mp (by decide))

theorem path_spares_escapes : SparesEscapes .path :=
  spares_escapes _ (by decide) (List.all_iff_forall_prop.mp (by decide))

theorem escapes_spared (set : EncodeSet) (spares : SparesEscapes set) (bytes : Bytes) (source : List Char)
    (escapes : Escapes bytes source) : ∀ c ∈ source, mustEncode set c = false := by
  intro c member
  rcases escapes_characters bytes source escapes c member with rfl | ⟨value, digit⟩
  · exact spares.1
  · exact spares.2 value c digit

section Encoding

variable (set : EncodeSet)

theorem percent_encode_append (front back : List Char) :
    percentEncode set (front ++ back) = percentEncode set front ++ percentEncode set back := List.flatMap_append

theorem percent_encode_flatten (units : List (List Char)) :
    percentEncode set units.flatten = (units.map (percentEncode set)).flatten := by
  induction units with
  | nil => rfl
  | cons unit rest ih => rw [List.flatten_cons, percent_encode_append, ih, List.map_cons, List.flatten_cons]

theorem percent_encode_ordinary (c : Char) (ordinary : mustEncode set c = false) (rest : List Char) :
    percentEncode set (c :: rest) = c :: percentEncode set rest := by
  rw [percentEncode, List.flatMap_cons, if_neg (by simp [ordinary])]
  rfl

theorem percent_encode_fixed (text : List Char) (ordinary : ∀ c ∈ text, mustEncode set c = false) :
    percentEncode set text = text := by
  induction text with
  | nil => rfl
  | cons c rest ih =>
      obtain ⟨first, others⟩ := List.forall_mem_cons.mp ordinary
      rw [percent_encode_ordinary set c first, ih others]

-- A character of an encoded text was there before, or it belongs to an escape.
theorem percent_encode_member (text : List Char) (c : Char) (member : c ∈ percentEncode set text) :
    (c ∈ text ∧ mustEncode set c = false) ∨ c = '%' ∨ ∃ value, HexDigit value c := by
  obtain ⟨mark, listed, here⟩ := List.mem_flatMap.mp member
  cases encodes : mustEncode set mark with
  | false =>
      rw [if_neg (by simp [encodes]), List.mem_singleton] at here
      subst here
      exact .inl ⟨listed, encodes⟩
  | true =>
      rw [if_pos encodes] at here
      exact .inr (escapes_characters _ _ (encode_bytes_escape _) c here)

theorem percent_encode_spares (spares : SparesEscapes set) (text : List Char) :
    ∀ c ∈ percentEncode set text, mustEncode set c = false := by
  intro c member
  rcases percent_encode_member set text c member with ⟨_, ordinary⟩ | rfl | ⟨value, digit⟩
  · exact ordinary
  · exact spares.1
  · exact spares.2 value c digit

-- No other character comes from encoding.
theorem percent_encode_absent (text : List Char) (mark : Char) (absent : mark ∉ text) (other : mark ≠ '%')
    (digitless : ∀ value, ¬ HexDigit value mark) : mark ∉ percentEncode set text := by
  intro member
  rcases percent_encode_member set text mark member with ⟨listed, _⟩ | same | ⟨value, digit⟩
  · exact absent listed
  · exact other same
  · exact digitless value digit

end Encoding

end ChainExplorer.Url
