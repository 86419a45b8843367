import ChainExplorer.Proofs.Number.Decimal
import ChainExplorer.Proofs.Toml.Strings
import ChainExplorer.Toml.Reader

set_option autoImplicit false

namespace ChainExplorer.Toml

-- A text that is read as a value, up to the end of its line.
structure Denotes (text : List Char) (value : Value) : Prop where
  start : ∃ head tail, text = head :: tail ∧ isBlank head = false
  read (fuel depth : Nat) (rest : List Char) :
    value? (fuel + 1) depth (text ++ '\n' :: rest) = some (value, '\n' :: rest)

theorem written_opens (text : List Char) :
    ∃ quote tail, writeString text = quote :: tail ∧ (quote = '"' ∨ quote = '\'') := by
  unfold writeString
  cases quotesFor text with
  | basic | basicLines => exact ⟨_, _, rfl, .inl rfl⟩
  | literal | literalLines => exact ⟨_, _, rfl, .inr rfl⟩

theorem denotes_string (text : String) : Denotes (writeString text.toList) (.string text) := by
  obtain ⟨quote, tail, opens, kind⟩ := written_opens text.toList
  constructor
  · exact ⟨quote, tail, opens, by rcases kind with rfl | rfl <;> rfl⟩
  · intro fuel depth rest
    have read := string_written text.toList ('\n' :: rest) (by simp) (by simp)
    rw [opens] at read ⊢
    rcases kind with rfl | rfl <;> simp_all [value?]

theorem word_taken (word rest : List Char) (whole : ∀ c ∈ word, endsWord c = false) :
    takeWord (word ++ '\n' :: rest) = (word, '\n' :: rest) := by
  have front : (word ++ '\n' :: rest).takeWhile (!endsWord ·) = word := by
    rw [List.takeWhile_append_of_pos (by simpa using whole)]
    simp [endsWord]
  have back : (word ++ '\n' :: rest).dropWhile (!endsWord ·) = '\n' :: rest := by
    rw [List.dropWhile_append_of_pos (by simpa using whole)]
    simp [endsWord]
  rw [takeWord, front, back]
  split <;> simp_all

theorem denotes_word (head : Char) (tail : List Char) (value : Value)
    (whole : ∀ c ∈ head :: tail, endsWord c = false)
    (opens : head ≠ '[' ∧ head ≠ '\x7b' ∧ head ≠ '"' ∧ head ≠ '\'') (means : word? (head :: tail) = some value) :
    Denotes (head :: tail) value := by
  constructor
  · refine ⟨head, tail, rfl, ?_⟩
    have first := whole head List.mem_cons_self
    simp [endsWord] at first
    simp [isBlank, first]
  · intro fuel depth rest
    rw [List.cons_append, value?, ← List.cons_append, word_taken _ rest whole]
    · simp [means]
    all_goals simp [opens]

theorem denotes_boolean (value : Bool) :
    Denotes (if value then "true".toList else "false".toList) (.boolean value) := by
  cases value with
  | true => exact denotes_word 't' "rue".toList (.boolean true) (by simp [endsWord]) (by decide) (by simp [word?])
  | false => exact denotes_word 'f' "alse".toList (.boolean false) (by simp [endsWord]) (by decide) (by simp [word?])

theorem digit_apart (c other : Char) (digit : c.isDigit) (odd : other.isDigit = false) : c ≠ other := by
  rintro rfl
  rw [digit] at odd
  contradiction

theorem decimal_digit (c : Char) (digit : c.isDigit) : isDecimal c = true ∧ c.toNat ≤ 57 ∧ endsWord c = false := by
  have bounds := digit
  simp only [Char.isDigit, ge_iff_le, Bool.and_eq_true, decide_eq_true_eq] at bounds
  have apart (other : Char) (odd : other.isDigit = false) : c ≠ other := digit_apart c other digit odd
  refine ⟨?_, bounds.2, ?_⟩
  · rw [isDecimal, Bool.and_eq_true, decide_eq_true_eq, decide_eq_true_eq]
    exact bounds
  · simp [endsWord, apart ' ' rfl, apart '\t' rfl, apart '\n' rfl, apart '\r' rfl, apart ',' rfl, apart ']' rfl,
      apart '\x7d' rfl, apart '#' rfl]

theorem plain_digits (digits : List Char) (nonempty : digits ≠ []) (all : ∀ c ∈ digits, isDecimal c) :
    plainDigits? isDecimal digits = some digits := by
  induction digits with
  | nil => exact absurd rfl nonempty
  | cons c digits ih =>
      obtain ⟨first, others⟩ := List.forall_mem_cons.mp all
      cases digits with
      | nil => simp [plainDigits?, first]
      | cons d digits =>
          have bar : d ≠ '_' := fun same => absurd (others d List.mem_cons_self) (same ▸ by decide)
          rw [plainDigits?, if_pos first, ih (List.cons_ne_nil _ _) others]
          · rfl
          all_goals simp [bar]

-- The digits of a number, with what the readers of words ask of them.
structure Numeral (n : Nat) (head : Char) (tail : List Char) : Prop where
  digits : Nat.toDigits 10 n = head :: tail
  all : ∀ c ∈ head :: tail, c.isDigit
  leading : head = '0' → tail = []

theorem digits_numeral (n : Nat) : ∃ head tail, Numeral n head tail := by
  obtain ⟨head, tail, digits⟩ := List.exists_cons_of_ne_nil (Nat.toDigits_ne_nil (n := n) (b := 10))
  refine ⟨head, tail, digits, ?_, ?_⟩
  · intro c member
    exact Nat.isDigit_of_mem_toDigits (by decide) (by decide) (digits ▸ member)
  · intro zero
    have alone := Number.digits_leading n (by rw [digits, zero]; rfl)
    exact (List.cons.inj (digits.symm.trans alone)).2

theorem numeral_value (n : Nat) (head : Char) (tail : List Char) (numeral : Numeral n head tail) :
    digitsValue 10 (head :: tail) = n := by
  have value := Nat.ofDigitChars_toDigits (b := 10) (n := n) (by decide) (by decide)
  rw [numeral.digits, Nat.ofDigitChars] at value
  refine Eq.trans (List.foldl_ext _ _ 0 fun sum c member => ?_) value
  rw [if_pos (decimal_digit c (numeral.all c member)).2.1, Nat.mul_comm]
  rfl

theorem integer_read (n : Nat) (head : Char) (tail : List Char) (numeral : Numeral n head tail)
    (fits : n < Number.signedLimit) : integer? (head :: tail) = some (.integer n) := by
  have leading := numeral.leading
  have apart (other : Char) (odd : other.isDigit = false) : head ≠ other :=
    digit_apart head other (numeral.all head List.mem_cons_self) odd
  have whole : wholeDigits? (head :: tail) = some (head :: tail) := by
    rw [wholeDigits?, plain_digits _ (List.cons_ne_nil _ _) fun c member => (decimal_digit c (numeral.all c member)).1]
    split <;> grind
  rw [integer?]
  · simp [splitSign, apart '+' rfl, apart '-' rfl, whole, numeral_value n head tail numeral, fitting?]
    omega
  all_goals grind

theorem denotes_natural (n : Nat) (fits : n < Number.signedLimit) :
    Denotes (Nat.toDigits 10 n) (.integer n) := by
  obtain ⟨head, tail, numeral⟩ := digits_numeral n
  rw [numeral.digits]
  have apart (other : Char) (odd : other.isDigit = false) : head ≠ other :=
    digit_apart head other (numeral.all head List.mem_cons_self) odd
  refine denotes_word head tail _ (fun c member => (decimal_digit c (numeral.all c member)).2.2) ?_ ?_
  · exact ⟨apart '[' rfl, apart '\x7b' rfl, apart '"' rfl, apart '\'' rfl⟩
  · simp [word?, apart 't' rfl, apart 'f' rfl, integer_read n head tail numeral fits]

-- A name that may stand as a key without quotes.
def Bare (name : String) : Prop := name.toList ≠ [] ∧ ∀ c ∈ name.toList, isBareKeyChar c

theorem bare_opens (name : String) (bare : Bare name) :
    ∃ head tail, name.toList = head :: tail ∧ ∀ c, isBareKeyChar c = false → head ≠ c := by
  obtain ⟨head, tail, same⟩ := List.exists_cons_of_ne_nil bare.1
  have first := bare.2 head (same ▸ List.mem_cons_self)
  exact ⟨head, tail, same, fun c odd equal => by rw [equal, odd] at first; contradiction⟩

theorem dark_stays (head : Char) (rest : List Char) (dark : isBlank head = false) :
    skipBlanks (head :: rest) = head :: rest :=
  List.dropWhile_cons_of_neg (by simp [dark])

theorem bare_stays (head : Char) (rest : List Char) (other : ∀ c, isBareKeyChar c = false → head ≠ c) :
    skipBlanks (head :: rest) = head :: rest :=
  dark_stays head rest (by simp [isBlank, other ' ' (by decide), other '\t' (by decide)])

theorem key_read (fuel : Nat) (name : String) (rest : List Char) (bare : Bare name) :
    key? (fuel + 1) (name.toList ++ ' ' :: '=' :: rest) = some ([name], '=' :: rest) := by
  obtain ⟨head, tail, same, other⟩ := bare_opens name bare
  have taken : (name.toList ++ ' ' :: '=' :: rest).takeWhile isBareKeyChar = name.toList := by
    rw [List.takeWhile_append_of_pos bare.2]
    simp [isBareKeyChar]
  have dropped : (name.toList ++ ' ' :: '=' :: rest).dropWhile isBareKeyChar = ' ' :: '=' :: rest := by
    rw [List.dropWhile_append_of_pos bare.2]
    simp [isBareKeyChar]
  have part : keyPart? (skipBlanks (name.toList ++ ' ' :: '=' :: rest)) = some (name, ' ' :: '=' :: rest) := by
    rw [same, List.cons_append, bare_stays head _ other, keyPart?]
    · rw [← List.cons_append, ← same, taken, dropped]
      simp [bare.1]
    all_goals simp [other '"' (by decide), other '\'' (by decide)]
  rw [key?, part]
  simp [skipBlanks, isBlank]

-- A line of a document, with the value that its text stands for.
structure Assignment where
  name : String
  text : List Char
  value : Value

namespace Assignment

def line (assignment : Assignment) : List Char :=
  assignment.name.toList ++ [' ', '=', ' '] ++ assignment.text ++ ['\n']

structure Sound (assignment : Assignment) : Prop where
  bare : Bare assignment.name
  denotes : Denotes assignment.text assignment.value

end Assignment

theorem assignment_read (assignment : Assignment) (sound : assignment.Sound) (members : Members) (rest : List Char)
    (new : members.lookup assignment.name = none) :
    assignment? ⟨members, []⟩ (assignment.line ++ rest) =
      some (⟨members.add assignment.name (.value assignment.value), []⟩, '\n' :: rest) := by
  obtain ⟨head, tail, starts, dark⟩ := sound.denotes.start
  have blanks : skipBlanks (' ' :: (assignment.text ++ '\n' :: rest)) = assignment.text ++ '\n' :: rest := by
    rw [starts]
    exact dark_stays head _ dark
  have line : assignment.line ++ rest =
      assignment.name.toList ++ ' ' :: '=' :: (' ' :: (assignment.text ++ '\n' :: rest)) := by
    simp [Assignment.line]
  rw [assignment?, line, key_read _ _ _ sound.bare]
  simp only [blanks, sound.denotes.read, Members.within, Members.define, new, Option.map_some]

theorem line_read (assignment : Assignment) (sound : assignment.Sound) (members : Members) (fuel : Nat)
    (rest : List Char) (new : members.lookup assignment.name = none) :
    lines? (fuel + 1) ⟨members, []⟩ (assignment.line ++ rest) =
      lines? fuel ⟨members.add assignment.name (.value assignment.value), []⟩ rest := by
  obtain ⟨head, tail, same, other⟩ := bare_opens assignment.name sound.bare
  obtain ⟨more, opens⟩ : ∃ more, assignment.line ++ rest = head :: more := by simp [Assignment.line, same]
  have comment : skipComment (head :: more) = head :: more := by
    simp [skipComment, other '#' (by decide)]
  have line : lineEnd? (head :: more) = none := by
    simp [lineEnd?, other '\n' (by decide), other '\r' (by decide)]
  have filler : skipFiller (head :: more) = head :: more := by
    rw [skipFiller, skipLines, bare_stays head more other, comment, line]
  have statement : statement? ⟨members, []⟩ (head :: more) = assignment? ⟨members, []⟩ (head :: more) := by
    simp [statement?, other '[' (by decide)]
  rw [opens, lines?, filler]
  simp only [statement]
  rw [← opens, assignment_read assignment sound members rest new]
  rfl

theorem lookup_added (members : Members) (name other : String) (node : Node) (apart : other ≠ name) :
    (members.add name node).lookup other = members.lookup other := by
  have unequal : (other == name) = false := beq_false_of_ne apart
  simp [Members.add, List.lookup_append, List.lookup_cons, unequal]

theorem lines_read (assignments : List Assignment) (members : Members) (fuel : Nat)
    (sound : ∀ assignment ∈ assignments, assignment.Sound) (distinct : (assignments.map Assignment.name).Nodup)
    (new : ∀ assignment ∈ assignments, members.lookup assignment.name = none) (enough : assignments.length < fuel) :
    lines? fuel ⟨members, []⟩ (assignments.flatMap Assignment.line) =
      some ⟨members ++ assignments.map fun assignment => (assignment.name, .value assignment.value), []⟩ := by
  induction assignments generalizing members fuel with
  | nil =>
      cases fuel with
      | zero => exact absurd enough (Nat.not_lt_zero _)
      | succ fuel => simp [lines?, skipFiller, skipLines, skipBlanks, skipComment, lineEnd?]
  | cons assignment assignments ih =>
      cases fuel with
      | zero => exact absurd enough (Nat.not_lt_zero _)
      | succ fuel =>
          obtain ⟨first, others⟩ := List.forall_mem_cons.mp sound
          obtain ⟨free, others_free⟩ := List.forall_mem_cons.mp new
          obtain ⟨once, distinct⟩ := List.nodup_cons.mp distinct
          rw [List.flatMap_cons, line_read assignment first members fuel _ free, ih _ fuel others distinct ?_ ?_]
          · simp [Members.add]
          · intro other member
            have apart : other.name ≠ assignment.name := fun same => once (List.mem_map.mpr ⟨other, member, same⟩)
            rw [lookup_added _ _ _ _ apart]
            exact others_free other member
          · simpa using enough

theorem plain_document (assignments : List Assignment) :
    toDocument (assignments.map fun assignment => (assignment.name, .value assignment.value)) =
      assignments.map fun assignment => (assignment.name, assignment.value) := by
  induction assignments with
  | nil => rfl
  | cons assignment assignments ih => rw [List.map_cons, toDocument, Node.toValue, ih, List.map_cons]

theorem lines_count (assignments : List Assignment) :
    assignments.length ≤ (assignments.flatMap Assignment.line).length := by
  induction assignments with
  | nil => exact Nat.le_refl _
  | cons assignment assignments ih =>
      simp only [List.flatMap_cons, List.length_append, List.length_cons, Assignment.line]
      omega

theorem lines_open (assignments : List Assignment) (sound : ∀ assignment ∈ assignments, assignment.Sound) :
    (assignments.flatMap Assignment.line).head? ≠ some '\uFEFF' := by
  cases assignments with
  | nil => nofun
  | cons assignment assignments =>
      obtain ⟨head, tail, same, other⟩ := bare_opens assignment.name (sound _ List.mem_cons_self).bare
      simp [Assignment.line, same, other '\uFEFF' (by decide)]

theorem unmarked (text : List Char) (plain : text.head? ≠ some '\uFEFF') : withoutMark text = text := by
  cases text with
  | nil => rfl
  | cons c text => simp_all [withoutMark]

theorem assignments_read (assignments : List Assignment) (sound : ∀ assignment ∈ assignments, assignment.Sound)
    (distinct : (assignments.map Assignment.name).Nodup) :
    read? (String.ofList (assignments.flatMap Assignment.line)) =
      some (assignments.map fun assignment => (assignment.name, assignment.value)) := by
  have read := lines_read assignments [] ((assignments.flatMap Assignment.line).length + 1) sound distinct
    (fun _ _ => rfl) (Nat.lt_succ_of_le (lines_count assignments))
  rw [read?, String.toList_ofList, unmarked _ (lines_open assignments sound), read, Option.map_some, List.nil_append,
    plain_document]

end ChainExplorer.Toml
