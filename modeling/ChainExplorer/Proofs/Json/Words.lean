import ChainExplorer.Json.Skip
import ChainExplorer.Proofs.Json.Grammar
import Mathlib.Data.List.DropRight
import Mathlib.Data.Nat.Digits.Defs

set_option autoImplicit false

namespace ChainExplorer.Json

theorem skip_blanks_append (blanks text : List Char) (blank : Blanks blanks) :
    skipBlanks (blanks ++ text) = skipBlanks text :=
  List.dropWhile_append_of_pos blank

theorem skip_blanks_stop (c : Char) (text : List Char) (visible : isBlank c = false) :
    skipBlanks (c :: text) = c :: text := by
  rw [skipBlanks, List.dropWhile_cons_of_neg (by simp [visible])]

theorem skip_blanks_before (blanks rest : List Char) (c : Char) (blank : Blanks blanks) (visible : isBlank c = false) :
    skipBlanks (blanks ++ [c] ++ rest) = c :: rest := by
  rw [List.append_assoc, skip_blanks_append blanks _ blank]
  exact skip_blanks_stop c rest visible

theorem skip_blanks_twice (text : List Char) : skipBlanks (skipBlanks text) = skipBlanks text :=
  List.dropWhile_idempotent _ text

theorem skip_blanks_within (text rest : List Char) (visible : skipBlanks text ≠ []) :
    skipBlanks (text ++ rest) = skipBlanks text ++ rest := by
  unfold skipBlanks at visible ⊢
  rw [List.dropWhile_append, if_neg (by simpa [List.isEmpty_iff] using visible)]

-- A number ends before this.
def Ends (text : List Char) : Prop := ∀ c ∈ text.head?, isBlank c ∨ c ∈ [',', ']', '\x7d']

theorem ends_append (blanks text : List Char) (blank : Blanks blanks) (ends : Ends text) : Ends (blanks ++ text) := by
  cases blanks with
  | nil => exact ends
  | cons c _ =>
      intro first here
      obtain rfl := Option.some.inj here
      exact .inl (blank _ (List.mem_cons_self))

theorem ends_separator (c : Char) (text : List Char) (separates : c ∈ [',', ']', '\x7d']) : Ends (c :: text) := by
  intro first here
  obtain rfl := Option.some.inj here
  exact .inr separates

-- So it is no part of the number.
theorem ends_apart (text : List Char) (ends : Ends text) :
    ∀ c ∈ text.head?, isDigit c = false ∧ c ≠ '.' ∧ c ≠ 'e' ∧ c ≠ 'E' := by
  intro c first
  have here := ends c first
  simp only [isBlank, Bool.or_eq_true, beq_iff_eq, List.mem_cons, List.not_mem_nil, or_false] at here
  rcases here with ((((rfl | rfl) | rfl) | rfl) | rfl | rfl | rfl) <;> decide

section Characters

theorem hex_digit_value (value : Nat) (c : Char) (digit : HexDigit value c) : Number.hexValue? c = some value := by
  obtain ⟨small, same⟩ := digit
  have each : ∀ value < 16, Number.hexValue? (Number.hexDigit value) = some value ∧
      Number.hexValue? (Number.upperHexDigit value) = some value := by decide
  rcases same with rfl | rfl
  · exact (each value small).1
  · exact (each value small).2

theorem hex_quad_read (value : Nat) (quad rest : List Char) (spelled : HexQuad value quad) :
    hexQuad (quad ++ rest) = .ok (value, rest) := by
  cases spelled with
  | digits a b c d p q r s first second third fourth =>
      simp [hexQuad, Number.hexNumeral?, hex_digit_value _ _ first, hex_digit_value _ _ second,
        hex_digit_value _ _ third, hex_digit_value _ _ fourth]

theorem char_no_surrogate (c : Char) : isHighSurrogate c.toNat = false ∧ isLowSurrogate c.toNat = false := by
  have valid : c.toNat < 0xD800 ∨ (0xDFFF < c.toNat ∧ c.toNat < 0x110000) := c.valid
  simp only [isHighSurrogate, isLowSurrogate, Bool.and_eq_false_iff, decide_eq_false_iff_not]
  omega

theorem code_escape_read (c : Char) (quad rest : List Char) (spelled : HexQuad c.toNat quad) :
    codeEscape (quad ++ rest) = .ok (c, rest) := by
  obtain ⟨high, low⟩ := char_no_surrogate c
  simp [codeEscape, hex_quad_read _ _ _ spelled, high, low, bind, Except.bind]

-- The two surrogates carry ten bits each of what the code has above the basic plane.
theorem surrogates_read (c : Char) (high low rest : List Char) (above : 0x10000 ≤ c.toNat)
    (first : HexQuad (0xD800 + (c.toNat - 0x10000) / 1024) high)
    (second : HexQuad (0xDC00 + (c.toNat - 0x10000) % 1024) low) :
    codeEscape (high ++ '\\' :: 'u' :: (low ++ rest)) = .ok (c, rest) := by
  have valid : c.toNat < 0xD800 ∨ (0xDFFF < c.toNat ∧ c.toNat < 0x110000) := c.valid
  obtain ⟨code, same⟩ : ∃ code, code = c.toNat - 0x10000 := ⟨_, rfl⟩
  have bound : code < 0x100000 := by omega
  rw [← same] at first second
  have leads : isLowSurrogate (0xD800 + code / 1024) = false ∧ isHighSurrogate (0xD800 + code / 1024) = true := by
    simp only [isHighSurrogate, isLowSurrogate, Bool.and_eq_false_iff, Bool.and_eq_true, decide_eq_false_iff_not,
      decide_eq_true_eq]
    omega
  have follows : isLowSurrogate (0xDC00 + code % 1024) = true := by
    simp only [isLowSurrogate, Bool.and_eq_true, decide_eq_true_eq]
    omega
  have whole : 0x10000 + (0xD800 + code / 1024 - 0xD800) * 1024 + (0xDC00 + code % 1024 - 0xDC00) = c.toNat := by
    omega
  simp only [codeEscape, hex_quad_read _ _ _ first, hex_quad_read _ _ _ second, leads, follows, bind, Except.bind,
    Bool.not_true, Bool.false_eq_true, if_false, if_true, whole, Char.ofNat_toNat]

theorem short_escape_read (letter c : Char) (rest : List Char) (known : (letter, c) ∈ shortEscapes) :
    escape (letter :: rest) = .ok (c, rest) := by
  simp only [shortEscapes, List.mem_cons, List.not_mem_nil, or_false, Prod.mk.injEq] at known
  rcases known with ⟨rfl, rfl⟩ | ⟨rfl, rfl⟩ | ⟨rfl, rfl⟩ | ⟨rfl, rfl⟩ | ⟨rfl, rfl⟩ | ⟨rfl, rfl⟩ | ⟨rfl, rfl⟩ | ⟨rfl, rfl⟩ <;> rfl

theorem spelled_char_read (c : Char) (unit rest : List Char) (fuel : Nat) (spelled : SpellsChar c unit) :
    stringBody (fuel + 1) (unit ++ rest) =
      (stringBody fuel rest).map fun (others, rest) => (c :: others, rest) := by
  cases spelled with
  | plain c unescaped =>
      obtain ⟨quote, backslash, visible⟩ := unescaped
      have shown : ¬ c.toNat < 0x20 := Nat.not_lt.mpr visible
      simp only [List.singleton_append, stringBody, if_neg quote, if_neg backslash, if_neg shown]
      rfl
  | short letter c known =>
      simp [stringBody, short_escape_read letter c rest known, bind, Except.bind]
      rfl
  | code c quad spelled =>
      simp [stringBody, escape, code_escape_read c quad rest spelled, bind, Except.bind]
      rfl
  | pair c high low above first second =>
      simp [stringBody, escape, surrogates_read c high low rest above first second, bind, Except.bind]
      rfl

theorem char_unit_skipped (unit rest : List Char) (fuel : Nat) (spelled : CharUnit unit) :
    skipString (fuel + 1) (unit ++ rest) = skipString fuel rest := by
  cases spelled with
  | plain c unescaped =>
      obtain ⟨quote, backslash, visible⟩ := unescaped
      have shown : ¬ c.toNat < 0x20 := Nat.not_lt.mpr visible
      simp only [List.singleton_append, skipString, if_neg quote, if_neg backslash, if_neg shown]
  | short letter c known =>
      simp only [shortEscapes, List.mem_cons, List.not_mem_nil, or_false, Prod.mk.injEq] at known
      rcases known with ⟨rfl, rfl⟩ | ⟨rfl, rfl⟩ | ⟨rfl, rfl⟩ | ⟨rfl, rfl⟩ | ⟨rfl, rfl⟩ | ⟨rfl, rfl⟩ | ⟨rfl, rfl⟩ |
        ⟨rfl, rfl⟩ <;> rfl
  | code value quad spelled => simp [skipString, hex_quad_read value quad rest spelled, bind, Except.bind]

-- Every unit takes a character at least, so the fuel lasts.
theorem units_fit (units : List (List Char)) (some : ∀ unit ∈ units, unit ≠ []) :
    units.length ≤ units.flatten.length := by
  induction units with
  | nil => exact Nat.le_refl 0
  | cons unit rest ih =>
      obtain ⟨first, others⟩ := List.forall_mem_cons.mp some
      have here := List.length_pos_of_ne_nil first
      have there := ih others
      rw [List.flatten_cons, List.length_append, List.length_cons]
      omega

theorem string_body_read (chars : List Char) (units : List (List Char)) (rest : List Char) (fuel : Nat)
    (spelled : List.Forall₂ SpellsChar chars units) (lasts : units.length < fuel) :
    stringBody fuel (units.flatten ++ '"' :: rest) = .ok (chars, rest) := by
  induction spelled generalizing fuel with
  | nil =>
      obtain ⟨left, rfl⟩ := Nat.exists_eq_add_of_lt lasts
      rfl
  | cons first _ ih =>
      obtain ⟨left, rfl⟩ := Nat.exists_eq_add_of_lt lasts
      rw [List.flatten_cons, List.append_assoc, spelled_char_read _ _ _ _ first, ih _ (by simp at *; omega)]
      rfl

theorem spelled_char_some (c : Char) (unit : List Char) (spelled : SpellsChar c unit) : unit ≠ [] := by
  cases spelled <;> exact List.cons_ne_nil _ _

theorem char_unit_some (unit : List Char) (spelled : CharUnit unit) : unit ≠ [] := by
  cases spelled <;> exact List.cons_ne_nil _ _

theorem spelled_units_some (chars : List Char) (units : List (List Char))
    (spelled : List.Forall₂ SpellsChar chars units) : ∀ unit ∈ units, unit ≠ [] := by
  induction spelled with
  | nil => exact List.forall_mem_nil _
  | cons first _ ih => exact List.forall_mem_cons.mpr ⟨spelled_char_some _ _ first, ih⟩

theorem string_read (text : String) (body rest : List Char) (spelled : SpellsString text ('"' :: body)) :
    string (body ++ rest) = .ok (text, rest) := by
  obtain ⟨units, each, same⟩ := spelled
  obtain rfl := List.tail_eq_of_cons_eq same
  have fit := units_fit units (spelled_units_some _ _ each)
  have read := string_body_read text.toList units rest ((units.flatten ++ '"' :: rest).length + 1) each
    (by simp only [List.length_append]; omega)
  rw [string, List.append_assoc, List.singleton_append, read]
  change Except.ok (String.ofList text.toList, rest) = _
  rw [String.ofList_toList]

theorem units_skipped (units : List (List Char)) (rest : List Char) (fuel : Nat)
    (each : ∀ unit ∈ units, CharUnit unit) (lasts : units.length < fuel) :
    skipString fuel (units.flatten ++ '"' :: rest) = .ok rest := by
  induction units generalizing fuel with
  | nil =>
      obtain ⟨left, rfl⟩ := Nat.exists_eq_add_of_lt lasts
      rfl
  | cons unit units ih =>
      obtain ⟨first, others⟩ := List.forall_mem_cons.mp each
      obtain ⟨left, rfl⟩ := Nat.exists_eq_add_of_lt lasts
      rw [List.flatten_cons, List.append_assoc, char_unit_skipped _ _ _ first, ih _ others (by simp at *; omega)]

theorem string_skipped (body rest : List Char) (spelled : StringText ('"' :: body)) :
    skipString ((body ++ rest).length + 1) (body ++ rest) = .ok rest := by
  obtain ⟨units, each, same⟩ := spelled
  obtain rfl := List.tail_eq_of_cons_eq same
  have fit := units_fit units fun unit member => char_unit_some unit (each unit member)
  rw [List.append_assoc, List.singleton_append]
  refine units_skipped units rest _ each ?_
  simp only [List.length_append]
  omega

end Characters

section Numbers

theorem digit_iff (c : Char) : isDigit c ↔ c.isDigit := by
  simp only [isDigit, Char.isDigit, Char.le_def, Bool.and_eq_true, decide_eq_true_eq]

theorem digit_apart (d c : Char) (digit : isDigit d) (other : isDigit c = false) : d ≠ c := by
  rintro rfl
  rw [other] at digit
  cases digit

theorem digit_visible (d : Char) (digit : isDigit d) : isBlank d = false := by
  have apart (c : Char) (blank : isDigit c = false) : d ≠ c := digit_apart d c digit blank
  simp [isBlank, apart ' ' rfl, apart '\n' rfl, apart '\t' rfl, apart '\r' rfl]

theorem digits_head (digits : List Char) (numbered : Digits digits) :
    ∃ d more, digits = d :: more ∧ isDigit d ∧ ∀ c ∈ more, isDigit c := by
  obtain ⟨some, each⟩ := numbered
  obtain ⟨d, more, rfl⟩ := List.exists_cons_of_ne_nil some
  exact ⟨d, more, rfl, List.forall_mem_cons.mp each⟩

theorem take_digits_append (digits rest : List Char) (each : ∀ c ∈ digits, isDigit c)
    (apart : ∀ c ∈ rest.head?, isDigit c = false) : takeDigits (digits ++ rest) = (digits, rest) := by
  rw [takeDigits, List.takeWhile_append_of_pos each, List.dropWhile_append_of_pos each]
  cases rest with
  | nil => simp
  | cons c rest => simp [apart c rfl]

-- More digits make no number smaller.
theorem digits_grow (digits : List Char) (number : Nat) : number ≤ Nat.ofDigitChars 10 digits number := by
  induction digits generalizing number with
  | nil => exact Nat.le_refl number
  | cons c rest ih =>
      rw [Nat.ofDigitChars_cons]
      exact Nat.le_trans (by omega) (ih _)

theorem digits_appended (digits : List Char) (number used : Nat)
    (fits : Nat.ofDigitChars 10 digits number < Number.wordLimit) :
    appendDigits number used digits = (Nat.ofDigitChars 10 digits number, used + digits.length) := by
  induction digits generalizing number used with
  | nil => rfl
  | cons c rest ih =>
      have longer : number * 10 + digitValue c = 10 * number + (c.toNat - '0'.toNat) := by
        rw [Nat.mul_comm]
        rfl
      rw [Nat.ofDigitChars_cons, ← longer] at fits ⊢
      rw [appendDigits, if_pos (Nat.lt_of_le_of_lt (digits_grow rest _) fits), ih _ _ fits, List.length_cons,
        Nat.add_assoc, Nat.add_comm 1]

theorem number_tail_ends (negative : Bool) (significand : Nat) (rest : List Char) (ends : Ends rest)
    (fits : negative = true → 0 < significand ∧ significand ≤ Number.signedLimit) :
    numberTail negative significand 0 rest =
      .ok (.integer (if negative then -significand else significand), rest) := by
  have judged : (if !negative then Except.ok (Number.integer significand, rest)
      else if significand = 0 || Number.signedLimit < significand then
        .ok (.double (-significand.toUInt64.toFloat), rest)
      else .ok (.integer (-significand), rest) : Except Failure (Number × List Char)) =
        .ok (.integer (if negative then -significand else significand), rest) := by
    cases negative with
    | false => rfl
    | true =>
        obtain ⟨positive, small⟩ := fits rfl
        have proper : (significand = 0 || Number.signedLimit < significand) = false := by simp; omega
        simp [proper]
  cases rest with
  | nil => exact judged
  | cons c rest =>
      obtain ⟨_, point, lower, upper⟩ := ends_apart _ ends c rfl
      simp only [numberTail]
      split
      · next same => exact absurd (List.head_eq_of_cons_eq same) point
      · next same => exact absurd (List.head_eq_of_cons_eq same) lower
      · next same => exact absurd (List.head_eq_of_cons_eq same) upper
      · exact judged

-- An integer that fits is read whole.
theorem numeral_read (negative : Bool) (digits rest : List Char) (numeral : Numeral digits) (ends : Ends rest)
    (fits : Nat.ofDigitChars 10 digits 0 < Number.wordLimit)
    (signed : negative = true →
      0 < Nat.ofDigitChars 10 digits 0 ∧ Nat.ofDigitChars 10 digits 0 ≤ Number.signedLimit) :
    number negative (digits ++ rest) =
      .ok (.integer (if negative then -Nat.ofDigitChars 10 digits 0 else Nat.ofDigitChars 10 digits 0), rest) := by
  have apart : ∀ c ∈ rest.head?, isDigit c = false := fun c here => (ends_apart rest ends c here).1
  have tail := number_tail_ends negative _ rest ends signed
  obtain ⟨numbered, leading⟩ := numeral
  obtain ⟨d, more, rfl, digit, _⟩ := digits_head digits numbered
  by_cases zero : d = '0'
  · obtain rfl : more = [] := List.tail_eq_of_cons_eq (leading (by rw [zero]; rfl))
    subst zero
    have nothing : Nat.ofDigitChars 10 ['0'] 0 = 0 := rfl
    rw [nothing] at tail ⊢
    cases rest with
    | nil => exact tail
    | cons c rest => simpa [number, apart c rfl] using tail
  · unfold number
    dsimp only [List.cons_append]
    rw [if_neg zero, if_pos digit, ← List.cons_append, take_digits_append _ _ numbered.2 apart]
    dsimp only
    rw [digits_appended _ 0 0 fits, Nat.zero_add, Nat.sub_self]
    exact tail

theorem skip_exponent_append (sign digits rest : List Char) (signed : sign ∈ [[], ['+'], ['-']])
    (numbered : Digits digits) (apart : ∀ c ∈ rest.head?, isDigit c = false) :
    skipExponent (sign ++ digits ++ rest) = .ok rest := by
  obtain ⟨d, more, rfl, digit, others⟩ := digits_head digits numbered
  have left : (more ++ rest).dropWhile isDigit = rest := congrArg Prod.snd (take_digits_append more rest others apart)
  have unsigned : d ≠ '+' ∧ d ≠ '-' := ⟨digit_apart d '+' digit rfl, digit_apart d '-' digit rfl⟩
  simp only [List.mem_cons, List.not_mem_nil, or_false] at signed
  rcases signed with rfl | rfl | rfl <;> simp [skipExponent, digit, left, unsigned]

-- The parts of a number are passed over one after the other.
theorem exponent_skipped (text rest : List Char) (spelled : ExponentText text) (ends : Ends rest) :
    skipNumberTail (text ++ rest) = .ok rest := by
  have apart := ends_apart rest ends
  rcases spelled with rfl | ⟨letter, sign, digits, lettered, signed, numbered, rfl⟩
  · cases rest with
    | nil => rfl
    | cons c rest => simp [skipNumberTail, apart c rfl]
  · have skipped := skip_exponent_append sign digits rest signed numbered fun c here => (apart c here).1
    simp only [List.mem_cons, List.not_mem_nil, or_false] at lettered
    rcases lettered with rfl | rfl <;> exact skipped

theorem fraction_skipped (text rest : List Char) (spelled : FractionText text)
    (apart : ∀ c ∈ rest.head?, isDigit c = false ∧ c ≠ '.') :
    skipNumberTail (text ++ rest) = skipNumberTail rest := by
  rcases spelled with rfl | ⟨digits, ⟨some, each⟩, rfl⟩
  · rfl
  · have taken := take_digits_append digits rest each fun c here => (apart c here).1
    simp only [List.cons_append, skipNumberTail, taken, List.isEmpty_iff, if_neg some]
    cases rest with
    | nil => rfl
    | cons c rest =>
        have point := (apart c rfl).2
        by_cases lower : c = 'e'
        · subst lower
          rfl
        · by_cases upper : c = 'E'
          · subst upper
            rfl
          · simp [point, lower, upper]

theorem numeral_skipped (digits rest : List Char) (numeral : Numeral digits)
    (apart : ∀ c ∈ rest.head?, isDigit c = false) : skipNumber (digits ++ rest) = skipNumberTail rest := by
  obtain ⟨numbered, leading⟩ := numeral
  obtain ⟨d, more, rfl, digit, others⟩ := digits_head digits numbered
  by_cases zero : d = '0'
  · obtain rfl : more = [] := List.tail_eq_of_cons_eq (leading (by rw [zero]; rfl))
    subst zero
    cases rest with
    | nil => rfl
    | cons c rest => simp [skipNumber, apart c rfl]
  · unfold skipNumber
    dsimp only [List.cons_append]
    rw [if_neg zero, if_pos digit]
    exact congrArg (skipNumberTail ∘ Prod.snd) (take_digits_append more rest others apart)

theorem exponent_apart (text rest : List Char) (spelled : ExponentText text) (ends : Ends rest) :
    ∀ c ∈ (text ++ rest).head?, isDigit c = false ∧ c ≠ '.' := by
  rcases spelled with rfl | ⟨letter, sign, digits, lettered, _, _, rfl⟩
  · exact fun c here => ⟨(ends_apart rest ends c here).1, (ends_apart rest ends c here).2.1⟩
  · intro c here
    obtain rfl := Option.some.inj here
    simp only [List.mem_cons, List.not_mem_nil, or_false] at lettered
    rcases lettered with rfl | rfl <;> decide

theorem fraction_apart (text rest : List Char) (spelled : FractionText text)
    (apart : ∀ c ∈ rest.head?, isDigit c = false) : ∀ c ∈ (text ++ rest).head?, isDigit c = false := by
  rcases spelled with rfl | ⟨digits, _, rfl⟩
  · exact apart
  · intro c here
    obtain rfl := Option.some.inj here
    decide

theorem number_skipped (digits fraction exponent rest : List Char) (numeral : Numeral digits)
    (first : FractionText fraction) (second : ExponentText exponent) (ends : Ends rest) :
    skipNumber (digits ++ fraction ++ exponent ++ rest) = .ok rest := by
  have apart := exponent_apart exponent rest second ends
  rw [List.append_assoc, List.append_assoc, numeral_skipped digits _ numeral,
    fraction_skipped fraction _ first apart, exponent_skipped exponent rest second ends]
  exact fraction_apart fraction _ first fun c here => (apart c here).1

end Numbers

section Layout

-- After blanks, the text goes on with something else than the end of a list.
def Begins (text : List Char) : Prop := ∃ c rest, skipBlanks text = c :: rest ∧ c ≠ ']'

variable {α β : Type} (grammar : Grammar α β)

theorem begins_some (text : List Char) (begins : Begins text) : 0 < text.length := by
  obtain ⟨c, rest, start, _⟩ := begins
  cases text with
  | nil => cases start
  | cons c text => exact Nat.succ_pos _

theorem begins_append (text rest : List Char) (begins : Begins text) : Begins (text ++ rest) := by
  obtain ⟨c, more, start, within⟩ := begins
  refine ⟨c, more ++ rest, ?_, within⟩
  rw [skip_blanks_within text rest (by rw [start]; exact List.cons_ne_nil _ _), start, List.cons_append]

theorem value_begins (scalars : ∀ value text, grammar.scalar value text → Begins text) (value : α) (text : List Char)
    (spelled : grammar.Spells (.value value) text) : Begins text := by
  cases spelled with
  | scalar _ _ stands => exact scalars value text stands
  | noItems | list => exact ⟨'[', _, skip_blanks_stop _ _ rfl, by decide⟩
  | noMembers | object => exact ⟨'\x7b', _, skip_blanks_stop _ _ rfl, by decide⟩

theorem element_begins (scalars : ∀ value text, grammar.scalar value text → Begins text) (value : α)
    (text : List Char) (spelled : grammar.Spells (.element value) text) : Begins text := by
  cases spelled with
  | element _ before inner after leading spelled _ =>
      obtain ⟨c, rest, start, within⟩ := begins_append inner after (value_begins grammar scalars value inner spelled)
      exact ⟨c, rest, by rw [List.append_assoc, skip_blanks_append before _ leading, start], within⟩

theorem items_begin (scalars : ∀ value text, grammar.scalar value text → Begins text) (values : List α)
    (text : List Char) (spelled : grammar.Spells (.items values) text) : Begins text := by
  cases spelled with
  | lastItem value _ spelled => exact element_begins grammar scalars value text spelled
  | item value _ _ _ spelled => exact begins_append _ _ (element_begins grammar scalars value _ spelled)

theorem numeral_begins (sign digits rest : List Char) (signed : sign ∈ [[], ['-']]) (numeral : Numeral digits) :
    Begins (sign ++ digits ++ rest) := by
  simp only [List.mem_cons, List.not_mem_nil, or_false] at signed
  rcases signed with rfl | rfl
  · obtain ⟨d, more, rfl, digit, _⟩ := digits_head digits numeral.1
    exact ⟨d, more ++ rest, skip_blanks_stop d _ (digit_visible d digit), digit_apart d ']' digit rfl⟩
  · exact ⟨'-', digits ++ rest, skip_blanks_stop _ _ rfl, by decide⟩

theorem exact_scalar_begins (value : Value) (text : List Char) (stands : Grammar.exact.scalar value text) :
    Begins text := by
  cases stands with
  | integer value _ spelled =>
      obtain ⟨digits, numeral, _, rfl⟩ := spelled
      rw [← List.append_nil (_ ++ digits)]
      refine numeral_begins _ digits [] ?_ numeral
      split <;> simp
  | string _ _ spelled =>
      obtain ⟨units, _, rfl⟩ := spelled
      exact ⟨'"', _, skip_blanks_stop _ _ rfl, by decide⟩
  | _ => exact ⟨_, _, skip_blanks_stop _ _ rfl, by decide⟩

theorem loose_scalar_begins (value : Unit) (text : List Char) (stands : Grammar.loose.scalar value text) :
    Begins text := by
  cases stands with
  | number _ spelled =>
      obtain ⟨sign, digits, fraction, exponent, signed, numeral, _, _, rfl⟩ := spelled
      rw [List.append_assoc (sign ++ digits)]
      exact numeral_begins sign digits _ signed numeral
  | string _ spelled =>
      obtain ⟨units, _, rfl⟩ := spelled
      exact ⟨'"', _, skip_blanks_stop _ _ rfl, by decide⟩
  | _ => exact ⟨_, _, skip_blanks_stop _ _ rfl, by decide⟩

theorem member_some (name : β) (value : α) (text : List Char) (spelled : grammar.Spells (.member name value) text) :
    0 < text.length := by
  cases spelled with
  | member => simp

-- The name of a member is found behind its quote, and what it names behind the colon.
theorem member_starts (before body between text rest : List Char) (leading : Blanks before) :
    skipBlanks (before ++ '"' :: body ++ between ++ ':' :: text ++ rest) =
      '"' :: (body ++ (between ++ ':' :: (text ++ rest))) := by
  simp only [List.append_assoc, List.cons_append]
  rw [skip_blanks_append before _ leading, skip_blanks_stop _ _ rfl]

theorem colon_read (between text : List Char) (blank : Blanks between) : colon (between ++ ':' :: text) = .ok text := by
  unfold colon
  rw [skip_blanks_append between _ blank, skip_blanks_stop _ _ rfl]
  rfl

end Layout

end ChainExplorer.Json
