import ChainExplorer.Proofs.Url.Percent
import ChainExplorer.Url.Form
import Mathlib.Data.List.TakeWhile

set_option autoImplicit false

namespace ChainExplorer.Url

open Text (Bytes utf8 readUtf8)
open Json (HexDigit)

namespace Form

def unplus (byte : UInt8) : UInt8 := if byte = 0x2B then 0x20 else byte

-- The bytes that a part of a form stands for.
def received (source : List Char) : Bytes := percentDecode ((utf8 source).map unplus)

theorem received_literal (c : Char) (source : List Char) (literal : c ≠ '%' ∧ c ≠ '+') :
    received (c :: source) = String.utf8EncodeChar c ++ received source := by
  have ordinary : ∀ byte ∈ String.utf8EncodeChar c, byte ≠ 0x25 ∧ unplus byte = byte := by
    intro byte member
    have known (mark : Char) (low : mark.toNat < 0x80) (other : c ≠ mark) : byte ≠ UInt8.ofNat mark.toNat := by
      rintro rfl
      refine other (List.mem_singleton.mp (Text.mark_of_byte [c] mark low ?_)).symm
      rwa [utf8, List.flatMap_singleton]
    exact ⟨known '%' (by decide) literal.1, if_neg (known '+' (by decide) literal.2)⟩
  unfold received
  rw [utf8, List.flatMap_cons, List.map_append]
  generalize String.utf8EncodeChar c = bytes at ordinary
  induction bytes with
  | nil => rfl
  | cons byte rest ih =>
      obtain ⟨⟨literal, same⟩, others⟩ := List.forall_mem_cons.mp ordinary
      rw [List.map_cons, List.cons_append, same, decode_literal byte _ literal, ih others, List.cons_append]

theorem received_escape (byte : UInt8) (code source : List Char) (escapes : EscapesByte byte code) :
    received (code ++ source) = byte :: received source := by
  cases escapes with
  | digits high low first second =>
      have highRange := hex_digit_range _ high first
      have lowRange := hex_digit_range _ low second
      have kept (c : Char) (range : 0x2B < c.toNat ∧ c.toNat < 0x80) :
          unplus (UInt8.ofNat c.toNat) = UInt8.ofNat c.toNat := by
        refine if_neg fun same => ?_
        have value := congrArg UInt8.toNat same
        rw [Text.byte_value c.toNat (by omega)] at value
        exact Nat.ne_of_gt range.1 value
      unfold received
      rw [List.cons_append, List.cons_append, List.cons_append, List.nil_append, utf8, List.flatMap_cons,
        List.flatMap_cons, List.flatMap_cons, Text.encoded_single '%' (by decide),
        Text.encoded_single high (by omega), Text.encoded_single low (by omega), List.singleton_append,
        List.singleton_append, List.singleton_append, List.map_cons, List.map_cons, List.map_cons,
        kept high (by omega), kept low (by omega)]
      exact decode_digits _ high low _ first second

theorem received_escapes (bytes : Bytes) (codes source : List Char) (escapes : Escapes bytes codes) :
    received (codes ++ source) = bytes ++ received source := by
  obtain ⟨units, each, rfl⟩ := escapes
  induction each with
  | nil => rfl
  | cons code _ ih =>
      rw [List.flatten_cons, List.append_assoc, received_escape _ _ _ code, ih, List.cons_append]

-- A character in a form. Blanks and controls are never written as they are, nor is what divides a form.
inductive SpellsChar : Char → List Char → Prop where
  | plain (c : Char) (visible : 0x20 < c.toNat) (ordinary : c ∉ ['%', '+', '&', '#']) : SpellsChar c [c]
  | plus : SpellsChar ' ' ['+']
  | escaped (c : Char) (codes : List Char) (escapes : Escapes (String.utf8EncodeChar c) codes) : SpellsChar c codes

def Spells (text source : List Char) : Prop :=
  ∃ units, List.Forall₂ SpellsChar text units ∧ source = units.flatten

-- A pair in a form. The first equals sign divides it; without one the value is empty.
inductive SpellsPair : String × String → List Char → Prop where
  | divided (name value : String) (first second : List Char) (named : Spells name.toList first) (whole : '=' ∉ first)
      (valued : Spells value.toList second) : SpellsPair (name, value) (first ++ '=' :: second)
  | undivided (name : String) (source : List Char) (named : Spells name.toList source) (whole : '=' ∉ source)
      (present : source ≠ []) : SpellsPair (name, "") source

-- Pairs with ampersands between them. Nothing between two of those, or before or behind one, is no pair.
inductive SpellsPairs : List (String × String) → List Char → Prop where
  | none : SpellsPairs [] []
  | last (pair : String × String) (source : List Char) (spelled : SpellsPair pair source) : SpellsPairs [pair] source
  | more (pair : String × String) (pairs : List (String × String)) (source rest : List Char)
      (spelled : SpellsPair pair source) (others : SpellsPairs pairs rest) :
      SpellsPairs (pair :: pairs) (source ++ '&' :: rest)
  | gap (pairs : List (String × String)) (rest : List Char) (others : SpellsPairs pairs rest) :
      SpellsPairs pairs ('&' :: rest)

theorem spells_plain (text : List Char) (plain : text.all fun c => 0x20 < c.toNat ∧ c ∉ ['%', '+', '&', '#']) :
    Spells text text := by
  have ordinary := List.all_iff_forall_prop.mp plain
  refine ⟨text.map fun c => [c], ?_, (List.flatMap_singleton' text).symm.trans List.flatMap_def⟩
  refine List.forall₂_map_right_iff.mpr (List.forall₂_same.mpr fun c member => ?_)
  obtain ⟨visible, other⟩ := ordinary c member
  exact .plain c visible other

theorem spells_append (first second text rest : List Char) (front : Spells text first) (back : Spells rest second) :
    Spells (text ++ rest) (first ++ second) := by
  obtain ⟨units, each, rfl⟩ := front
  obtain ⟨others, next, rfl⟩ := back
  exact ⟨units ++ others, List.rel_append each next, List.flatten_append.symm⟩

theorem spells_char_characters (c : Char) (unit : List Char) (spelled : SpellsChar c unit) :
    ∀ mark ∈ unit, 0x20 < mark.toNat ∧ mark ≠ '&' ∧ mark ≠ '#' := by
  cases spelled with
  | plain _ visible ordinary =>
      intro mark member
      obtain rfl := List.mem_singleton.mp member
      simp only [List.mem_cons, List.not_mem_nil, or_false, not_or] at ordinary
      exact ⟨visible, ordinary.2.2.1, ordinary.2.2.2⟩
  | plus =>
      intro mark member
      obtain rfl := List.mem_singleton.mp member
      decide
  | escaped _ _ escapes =>
      intro mark member
      rcases escapes_characters _ _ escapes mark member with rfl | ⟨value, digit⟩
      · decide
      · have range := hex_digit_range value mark digit
        refine ⟨by omega, ?_, ?_⟩
        · rintro rfl
          exact absurd range (by decide)
        · rintro rfl
          exact absurd range (by decide)

theorem spelled_characters (text source : List Char) (spelled : Spells text source) :
    ∀ mark ∈ source, 0x20 < mark.toNat ∧ mark ≠ '&' ∧ mark ≠ '#' := by
  obtain ⟨units, each, rfl⟩ := spelled
  induction each with
  | nil => exact fun mark member => nomatch member
  | cons first _ ih =>
      intro mark member
      rw [List.flatten_cons] at member
      rcases List.mem_append.mp member with here | later
      · exact spells_char_characters _ _ first mark here
      · exact ih mark later

theorem received_spelled (text source : List Char) (spelled : Spells text source) : received source = utf8 text := by
  obtain ⟨units, each, rfl⟩ := spelled
  induction each with
  | nil => rfl
  | @cons c unit text units first _ ih =>
      rw [List.flatten_cons, utf8, List.flatMap_cons]
      change _ = _ ++ utf8 text
      rw [← ih]
      cases first with
      | plain _ visible ordinary =>
          simp only [List.mem_cons, List.not_mem_nil, or_false, not_or] at ordinary
          exact received_literal c _ ⟨ordinary.1, ordinary.2.1⟩
      | plus =>
          exact decode_literal 0x20 _ (by decide)
      | escaped _ _ escapes => exact received_escapes _ _ _ escapes

theorem read_spelled (text source : List Char) (spelled : Spells text source) : read (utf8 source) = text := by
  change readUtf8 (received source) = text
  rw [received_spelled text source spelled, Text.read_utf8]

theorem byte_absent (mark : Char) (low : mark.toNat < 0x80) (source : List Char) (absent : mark ∉ source) :
    ∀ byte ∈ utf8 source, byte ≠ UInt8.ofNat mark.toNat := by
  rintro _ member rfl
  exact absent (Text.mark_of_byte source mark low member)

theorem utf8_marked (mark : Char) (low : mark.toNat < 0x80) (front back : List Char) :
    utf8 (front ++ mark :: back) = utf8 front ++ UInt8.ofNat mark.toNat :: utf8 back := by
  rw [Text.utf8_append, utf8, utf8, List.flatMap_cons, Text.encoded_single mark low, List.singleton_append]
  rfl

theorem read_pair_spelled (pair : String × String) (source : List Char) (spelled : SpellsPair pair source) :
    readPair (utf8 source) = pair := by
  cases spelled with
  | divided name value first second named whole valued =>
      have front : ∀ byte ∈ utf8 first, (byte != 0x3D) = true := fun byte member =>
        bne_iff_ne.mpr (byte_absent '=' (by decide) first whole byte member)
      rw [utf8_marked '=' (by decide), readPair, List.takeWhile_append_of_pos front, List.dropWhile_append_of_pos front,
        List.takeWhile_cons_of_neg (by decide), List.dropWhile_cons_of_neg (by decide), List.append_nil, List.drop_one,
        List.tail_cons, read_spelled _ _ named, read_spelled _ _ valued, String.ofList_toList, String.ofList_toList]
  | undivided name source named whole present =>
      have front : ∀ byte ∈ utf8 source, (byte != 0x3D) = true := fun byte member =>
        bne_iff_ne.mpr (byte_absent '=' (by decide) source whole byte member)
      rw [readPair, List.takeWhile_eq_self_iff.mpr front, List.dropWhile_eq_nil_iff.mpr front, List.drop_nil,
        read_spelled _ _ named, String.ofList_toList]
      rfl

theorem pair_characters (pair : String × String) (source : List Char) (spelled : SpellsPair pair source) :
    source ≠ [] ∧ ∀ mark ∈ source, 0x20 < mark.toNat ∧ mark ≠ '&' ∧ mark ≠ '#' := by
  cases spelled with
  | divided name value first second named whole valued =>
      refine ⟨by simp, fun mark member => ?_⟩
      rcases List.mem_append.mp member with front | back
      · exact spelled_characters _ _ named mark front
      · rcases List.mem_cons.mp back with rfl | back
        · decide
        · exact spelled_characters _ _ valued mark back
  | undivided name source named whole present => exact ⟨present, spelled_characters _ _ named⟩

theorem utf8_present (source : List Char) (present : source ≠ []) : (utf8 source).isEmpty = false := by
  cases source with
  | nil => exact absurd rfl present
  | cons c rest =>
      rw [utf8, List.flatMap_cons]
      exact List.isEmpty_eq_false_iff.mpr (List.append_ne_nil_of_left_ne_nil String.utf8EncodeChar_ne_nil _)

theorem pairs_marked (front back : List Char) (whole : '&' ∉ front) :
    pairs (front ++ '&' :: back) = (if front = [] then [] else [readPair (utf8 front)]) ++ pairs back := by
  have split : (utf8 (front ++ '&' :: back)).splitOn 0x26 = utf8 front :: (utf8 back).splitOn 0x26 := by
    rw [utf8_marked '&' (by decide)]
    refine List.splitOnP_append_cons_of_forall_mem (fun byte member => ?_) _ (by decide) _
    simpa using byte_absent '&' (by decide) front whole byte member
  unfold pairs
  rw [split]
  by_cases bare : front = []
  · subst bare
    rfl
  · rw [if_neg bare, List.filter_cons_of_pos (by simp [utf8_present front bare])]
    rfl

theorem pairs_whole (source : List Char) (present : source ≠ []) (whole : '&' ∉ source) :
    pairs source = [readPair (utf8 source)] := by
  have single : (utf8 source).splitOn 0x26 = [utf8 source] := by
    refine List.splitOnP_eq_singleton fun byte member => ?_
    simpa using byte_absent '&' (by decide) source whole byte member
  unfold pairs
  rw [single, List.filter_cons_of_pos (by simp [utf8_present source present])]
  rfl

theorem pairs_spelled (listed : List (String × String)) (source : List Char) (spelled : SpellsPairs listed source) :
    pairs source = listed := by
  induction spelled with
  | none => rfl
  | last pair source spelled =>
      obtain ⟨present, characters⟩ := pair_characters pair source spelled
      have whole : '&' ∉ source := fun member => (characters '&' member).2.1 rfl
      rw [pairs_whole source present whole, read_pair_spelled pair source spelled]
  | more pair others source rest spelled _ ih =>
      obtain ⟨present, characters⟩ := pair_characters pair source spelled
      have whole : '&' ∉ source := fun member => (characters '&' member).2.1 rfl
      rw [pairs_marked source rest whole, if_neg present, read_pair_spelled pair source spelled, ih, List.singleton_append]
  | gap others rest _ ih => exact (pairs_marked [] rest List.not_mem_nil).trans ih

theorem lookup_first (name : String) (listed : List (String × String)) :
    listed.lookup name = (listed.find? fun pair => pair.1 = name).map Prod.snd := by
  induction listed with
  | nil => rfl
  | cons pair rest ih =>
      obtain ⟨key, value⟩ := pair
      rw [List.lookup_cons]
      by_cases same : key = name
      · rw [List.find?_cons_of_pos (by simpa using same), beq_iff_eq.mpr same.symm]
        rfl
      · rw [List.find?_cons_of_neg (by simpa using same), beq_false_of_ne (Ne.symm same)]
        exact ih

theorem lookup_spelled (name : String) (listed : List (String × String)) (source : List Char)
    (spelled : SpellsPairs listed source) : lookup name source = (listed.find? fun pair => pair.1 = name).map Prod.snd := by
  rw [lookup, pairs_spelled listed source spelled, lookup_first]

-- What percent-encoding adds are escapes, and these stay as they are when they are encoded again.
theorem encoded_spells_char (c : Char) (unit : List Char) (spelled : SpellsChar c unit) :
    SpellsChar c (percentEncode .specialQuery unit) := by
  cases spelled with
  | plain _ visible ordinary =>
      cases encodes : mustEncode .specialQuery c with
      | false =>
          rw [percent_encode_ordinary _ c encodes]
          exact .plain c visible ordinary
      | true =>
          refine .escaped c _ ?_
          rw [percentEncode, List.flatMap_singleton, if_pos encodes]
          exact encode_bytes_escape _
  | plus => exact .plus
  | escaped _ _ escapes =>
      refine .escaped c _ ?_
      rw [percent_encode_fixed .specialQuery unit (escapes_spared _ query_spares_escapes _ unit escapes)]
      exact escapes

theorem encoded_spells (text source : List Char) (spelled : Spells text source) :
    Spells text (percentEncode .specialQuery source) := by
  obtain ⟨units, each, rfl⟩ := spelled
  refine ⟨units.map (percentEncode .specialQuery), ?_, percent_encode_flatten _ units⟩
  exact List.forall₂_map_right_iff.mpr (each.imp encoded_spells_char)

theorem equals_digitless (value : Nat) : ¬ HexDigit value '=' := fun digit =>
  absurd (hex_digit_range value '=' digit) (by decide)

theorem escapes_whole (bytes : Bytes) (source : List Char) (escapes : Escapes bytes source) : '=' ∉ source := by
  intro member
  rcases escapes_characters bytes source escapes '=' member with impossible | ⟨value, digit⟩
  · exact absurd impossible (by decide)
  · exact equals_digitless value digit

theorem encoded_whole (source : List Char) (whole : '=' ∉ source) : '=' ∉ percentEncode .specialQuery source :=
  percent_encode_absent _ source '=' whole (by decide) equals_digitless

theorem encoded_present (source : List Char) (present : source ≠ []) : percentEncode .specialQuery source ≠ [] := by
  obtain ⟨c, rest, rfl⟩ := List.exists_cons_of_ne_nil present
  cases encodes : mustEncode .specialQuery c with
  | false =>
      rw [percent_encode_ordinary _ c encodes]
      exact List.cons_ne_nil c _
  | true =>
      rw [percentEncode, List.flatMap_cons, if_pos encodes]
      obtain ⟨byte, bytes, same⟩ := List.exists_cons_of_ne_nil (String.utf8EncodeChar_ne_nil (c := c))
      rw [same]
      exact List.cons_ne_nil _ _

theorem encoded_divided (mark : Char) (ordinary : mustEncode .specialQuery mark = false) (front back : List Char) :
    percentEncode .specialQuery (front ++ mark :: back) =
      percentEncode .specialQuery front ++ mark :: percentEncode .specialQuery back := by
  rw [percent_encode_append, percent_encode_ordinary _ mark ordinary]

theorem encoded_spells_pair (pair : String × String) (source : List Char) (spelled : SpellsPair pair source) :
    SpellsPair pair (percentEncode .specialQuery source) := by
  cases spelled with
  | divided name value first second named whole valued =>
      rw [encoded_divided '=' (by decide)]
      exact .divided name value _ _ (encoded_spells _ _ named) (encoded_whole first whole) (encoded_spells _ _ valued)
  | undivided name source named whole present =>
      exact .undivided name _ (encoded_spells _ _ named) (encoded_whole source whole) (encoded_present source present)

theorem encoded_spells_pairs (listed : List (String × String)) (source : List Char)
    (spelled : SpellsPairs listed source) : SpellsPairs listed (percentEncode .specialQuery source) := by
  induction spelled with
  | none => exact .none
  | last pair source spelled => exact .last pair _ (encoded_spells_pair pair source spelled)
  | more pair others source rest spelled _ ih =>
      rw [encoded_divided '&' (by decide)]
      exact .more pair others _ _ (encoded_spells_pair pair source spelled) ih
  | gap others rest _ ih =>
      rw [percent_encode_ordinary _ '&' (by decide)]
      exact .gap others _ ih

theorem plain_range (byte : UInt8) (plain : isPlain byte) :
    0x29 < byte.toNat ∧ byte.toNat < 0x7B ∧ byte.toNat ≠ 0x2B ∧ byte.toNat ≠ 0x3D := by
  simp only [isPlain, Bool.or_eq_true, Bool.and_eq_true, decide_eq_true_eq, beq_iff_eq] at plain
  omega

-- What is written for a text is one of its spellings.
theorem write_char_spells (c : Char) : SpellsChar c ((String.utf8EncodeChar c).flatMap writeByte) := by
  by_cases single : c.toNat < 0x80
  · have value := Text.byte_value c.toNat (by omega)
    rw [Text.encoded_single c single, List.flatMap_singleton, writeByte]
    by_cases space : UInt8.ofNat c.toNat = 0x20
    · have same : c.toNat = ' '.toNat := value.symm.trans (congrArg UInt8.toNat space)
      obtain rfl : c = ' ' := Char.ext (UInt32.toNat_inj.mp same)
      exact .plus
    · rw [if_neg space]
      by_cases plain : isPlain (UInt8.ofNat c.toNat)
      · have range := plain_range _ plain
        rw [value] at range
        rw [if_pos plain, value, Char.ofNat_toNat]
        refine .plain c (by omega) fun member => ?_
        have marks : ∀ mark ∈ ['%', '+', '&', '#'], mark.toNat ≤ 0x29 ∨ mark.toNat = 0x2B :=
          List.all_iff_forall_prop.mp (by decide)
        have apart := marks c member
        omega
      · rw [if_neg plain, ← List.flatMap_singleton encodeByte]
        refine .escaped c _ ?_
        rw [Text.encoded_single c single]
        exact encode_bytes_escape _
  · have high : ∀ byte ∈ String.utf8EncodeChar c, writeByte byte = encodeByte byte := by
      intro byte member
      have beyond : ¬ byte.toNat < 0x80 := fun low => single (Text.byte_of_single c byte member low ▸ low)
      have unplain : ¬ isPlain byte := fun plain => by
        have range := plain_range byte plain
        omega
      have other : byte ≠ 0x20 := by
        rintro rfl
        exact beyond (by decide)
      rw [writeByte, if_neg other, if_neg unplain]
    rw [List.flatMap_congr high]
    exact .escaped c _ (encode_bytes_escape _)

theorem write_spells (text : List Char) : Spells text (write text) := by
  refine ⟨text.map fun c => (String.utf8EncodeChar c).flatMap writeByte, ?_, ?_⟩
  · exact List.forall₂_map_right_iff.mpr (List.forall₂_same.mpr fun c _ => write_char_spells c)
  · rw [write, utf8, List.flatMap_assoc]
    exact List.flatMap_def

theorem write_whole (text : List Char) : '=' ∉ write text := by
  intro member
  obtain ⟨byte, _, here⟩ := List.mem_flatMap.mp member
  unfold writeByte at here
  split at here
  · exact absurd (List.mem_singleton.mp here) (by decide)
  · split at here
    · rename_i plain
      have range := plain_range byte plain
      have same := congrArg Char.toNat (List.mem_singleton.mp here)
      rw [Text.character_value byte.toNat (.inl (by omega))] at same
      exact range.2.2.2 same.symm
    · refine escapes_whole [byte] (encodeByte byte) ?_ here
      rw [← List.flatMap_singleton encodeByte]
      exact encode_bytes_escape [byte]

theorem write_pair_spells (name value : String) : SpellsPair (name, value) (writePair name value) :=
  .divided name value _ _ (write_spells _) (write_whole _) (write_spells _)

end Form

end ChainExplorer.Url
