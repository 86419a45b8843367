import ChainExplorer.Json.Printer
import ChainExplorer.Proofs.Json.Words
import ChainExplorer.Proofs.Number.Decimal

set_option autoImplicit false

namespace ChainExplorer.Json

theorem no_blanks : Blanks [] := List.forall_mem_nil _

theorem control_printed (c : Char) (control : c.toNat < 0x20) :
    HexQuad c.toNat ['0', '0', Number.hexDigit (c.toNat / 16), Number.hexDigit (c.toNat % 16)] := by
  have zero : HexDigit 0 '0' := ⟨by decide, .inl (by decide)⟩
  have quad := HexQuad.digits 0 0 (c.toNat / 16) (c.toNat % 16) '0' '0' _ _ zero zero ⟨by omega, .inl rfl⟩
    ⟨by omega, .inl rfl⟩
  have whole : ((0 * 16 + 0) * 16 + c.toNat / 16) * 16 + c.toNat % 16 = c.toNat := by omega
  rwa [whole] at quad

theorem char_printed (c : Char) : SpellsChar c (printChar c) := by
  unfold printChar
  split_ifs with quote backslash back tab line form carriage control
  · exact quote ▸ .short '"' '"' (by decide)
  · exact backslash ▸ .short '\\' '\\' (by decide)
  · exact back ▸ .short 'b' '\x08' (by decide)
  · exact tab ▸ .short 't' '\t' (by decide)
  · exact line ▸ .short 'n' '\n' (by decide)
  · exact form ▸ .short 'f' '\x0C' (by decide)
  · exact carriage ▸ .short 'r' '\r' (by decide)
  · exact .code c _ (control_printed c control)
  · exact .plain c ⟨quote, backslash, Nat.not_lt.mp control⟩

theorem string_printed (text : String) : SpellsString text (printString text) := by
  refine ⟨text.toList.map printChar, ?_, ?_⟩
  · exact List.forall₂_map_right_iff.mpr (List.forall₂_same.mpr fun c _ => char_printed c)
  · rw [printString, List.flatMap_def]
    rfl

theorem integer_printed (value : Int) : SpellsInteger value (printInteger value) := by
  refine ⟨Nat.toDigits 10 value.natAbs, ⟨⟨Nat.toDigits_ne_nil, ?_⟩, Number.digits_leading _⟩, ?_, rfl⟩
  · exact fun c member => (digit_iff c).mpr (Nat.isDigit_of_mem_toDigits (by decide) (by decide) member)
  · exact Nat.ofDigitChars_toDigits (by decide) (by decide)

theorem element_printed (value : Value) (text : List Char) (spelled : Grammar.exact.Spells (.value value) text) :
    Grammar.exact.Spells (.element value) text := by
  have element := Grammar.Spells.element value [] text [] no_blanks spelled no_blanks
  rwa [List.nil_append, List.append_nil] at element

theorem items_printed (items : List Value) (some : items ≠ [])
    (each : ∀ item ∈ items, Grammar.exact.Spells (.value item) (printValue item)) :
    Grammar.exact.Spells (.items items) (printItems items) := by
  induction items with
  | nil => exact absurd rfl some
  | cons item rest ih =>
      obtain ⟨first, others⟩ := List.forall_mem_cons.mp each
      have element := element_printed item _ first
      cases rest with
      | nil => exact .lastItem item _ element
      | cons next more =>
          exact .item item (next :: more) _ _ element (ih (List.cons_ne_nil _ _) others)

theorem member_printed (name : String) (value : Value)
    (spelled : Grammar.exact.Spells (.value value) (printValue value)) :
    Grammar.exact.Spells (.member name value) (printString name ++ ':' :: printValue value) := by
  have member : Grammar.exact.Spells (.member name value) ([] ++ printString name ++ [] ++ ':' :: printValue value) :=
    .member name value [] _ [] _ no_blanks (string_printed name) no_blanks (element_printed value _ spelled)
  rwa [List.nil_append, List.append_nil] at member

theorem members_printed (members : List (String × Value)) (some : members ≠ [])
    (each : ∀ member ∈ members, Grammar.exact.Spells (.value member.2) (printValue member.2)) :
    Grammar.exact.Spells (.members members) (printMembers members) := by
  induction members with
  | nil => exact absurd rfl some
  | cons member rest ih =>
      obtain ⟨first, others⟩ := List.forall_mem_cons.mp each
      obtain ⟨name, value⟩ := member
      have printed := member_printed name value first
      cases rest with
      | nil => exact .lastMember name value _ printed
      | cons next more =>
          exact .members name value (next :: more) _ _ printed (ih (List.cons_ne_nil _ _) others)

theorem value_printed (levels : Nat) (value : Value) (plain : value.Plain levels) :
    Grammar.exact.Spells (.value value) (printValue value) := by
  induction plain with
  | null => exact .scalar _ _ .null
  | bool _ value => cases value <;> exact .scalar _ _ (by constructor)
  | integer _ value => exact .scalar _ _ (.integer value _ (integer_printed value))
  | string _ text => exact .scalar _ _ (.string text _ (string_printed text))
  | array _ items _ spelled =>
      by_cases empty : items = []
      · rw [empty]
        exact .noItems _ [] rfl no_blanks
      · exact .list _ items _ rfl (items_printed items empty spelled)
  | object _ members _ _ spelled =>
      by_cases empty : members = []
      · rw [empty]
        exact .noMembers _ [] ⟨[], .refl _, rfl⟩ no_blanks
      · exact .object _ members _ ⟨members, .refl _, rfl⟩ (members_printed members empty spelled)

end ChainExplorer.Json
