import ChainExplorer.Proofs.Json.Printing
import ChainExplorer.Proofs.Json.Reading
import ChainExplorer.Proofs.Json.Skipping
import ChainExplorer.Search.Result

set_option autoImplicit false

namespace ChainExplorer.Search

open Json

def Member.name : Member → String
  | .succeeded => "wasSuccess"
  | .errorMessage => "errorMessage"
  | .kind => "objectType"
  | .object => "object"

theorem member_named (member : Member) : Member.ofName? member.name = some member := by
  cases member <;> rfl

theorem foreign_name (name : String) (foreign : ∀ member : Member, name ≠ member.name) :
    Member.ofName? name = none := by
  refine (if_neg (foreign .succeeded)).trans ?_
  refine (if_neg (foreign .errorMessage)).trans ?_
  exact (if_neg (foreign .kind)).trans (if_neg (foreign .object))

theorem kind_restored (kind : Kind)
    (known : ∀ name, kind = .unknown name → name ∉ ["BLOCK", "BLOCK_HEADER", "ADDRESS", "TRANSACTION"]) :
    Kind.ofName kind.name = kind := by
  cases kind with
  | unknown name =>
      have other := known name rfl
      simp only [List.mem_cons, List.not_mem_nil, or_false, not_or] at other
      simp [Kind.name, Kind.ofName, other]
  | _ => rfl

theorem kind_name_kept (name : String) : (Kind.ofName name).name = name := by
  unfold Kind.ofName
  split
  · next same => exact same.symm
  · split
    · next same => exact same.symm
    · split
      · next same => exact same.symm
      · split
        · next same => exact same.symm
        · rfl

section Words

-- A value that has no parts is a word between blanks, and it is read when that word is.
theorem word_read {α : Type} (reader : List Char → Except Failure (α × List Char)) (value : Value) (found : α)
    (reads : ∀ before word rest, Blanks before → SpellsScalar value word →
      reader (before ++ word ++ rest) = .ok (found, rest))
    (single : (∀ items, value ≠ .array items) ∧ ∀ members, value ≠ .object members) (text : List Char)
    (spelled : Grammar.exact.Spells (.element value) text) (rest : List Char) :
    ∃ left, reader (text ++ rest) = .ok (found, left) ∧ skipBlanks left = skipBlanks rest := by
  cases spelled with
  | element _ before word after leading spelled trailing =>
      refine ⟨after ++ rest, ?_, skip_blanks_append after rest trailing⟩
      rw [List.append_assoc]
      refine reads before word (after ++ rest) leading ?_
      cases spelled with
      | scalar _ _ stands => exact stands
      | noItems _ _ stands => exact absurd stands (single.1 [])
      | list _ values _ stands => exact absurd stands (single.1 values)
      | noMembers _ _ stands =>
          obtain ⟨members, _, same⟩ := stands
          exact absurd same (single.2 members)
      | object _ _ _ stands =>
          obtain ⟨members, _, same⟩ := stands
          exact absurd same (single.2 members)

theorem bool_read (value : Bool) (before word rest : List Char) (leading : Blanks before)
    (stands : SpellsScalar (.bool value) word) : readBool (before ++ word ++ rest) = .ok (value, rest) := by
  rw [readBool, List.append_assoc, skip_blanks_append before _ leading]
  cases stands <;> rfl

theorem text_read (value : String) (before word rest : List Char) (leading : Blanks before)
    (stands : SpellsScalar (.string value) word) : readText (before ++ word ++ rest) = .ok (value, rest) := by
  rw [readText, List.append_assoc, skip_blanks_append before _ leading]
  cases stands with
  | string _ _ spelled =>
      obtain ⟨units, each, rfl⟩ := spelled
      exact string_read value _ rest ⟨units, each, rfl⟩

theorem optional_text_read (value : Option String) (before word rest : List Char) (leading : Blanks before)
    (stands : SpellsScalar (value.elim .null .string) word) :
    readOptionalText (before ++ word ++ rest) = .ok (value, rest) := by
  rw [readOptionalText, List.append_assoc, skip_blanks_append before _ leading]
  cases value with
  | none =>
      cases stands
      rfl
  | some value =>
      have read := text_read value [] word rest no_blanks stands
      cases stands with
      | string _ _ spelled =>
          obtain ⟨units, each, rfl⟩ := spelled
          rw [List.nil_append, List.cons_append] at read
          rw [List.cons_append, skip_blanks_stop _ _ rfl]
          generalize units.flatten ++ ['"'] ++ rest = body at read ⊢
          simp [read, bind, Except.bind]

theorem kind_read (kind : Kind) (known : Kind.ofName kind.name = kind) (before word rest : List Char)
    (leading : Blanks before) (stands : SpellsScalar (.string kind.name) word) :
    readKind (before ++ word ++ rest) = .ok (kind, rest) := by
  rw [readKind, text_read kind.name before word rest leading stands]
  exact congrArg (fun kind => Except.ok (kind, rest)) known

end Words

namespace Result

variable (result : Result)

-- What the members of a result stand for.
def value : Member → Value
  | .succeeded => .bool result.succeeded
  | .errorMessage => result.errorMessage.elim .null .string
  | .kind => .string result.kind.name
  | .object => result.object

-- A member that can be left out says what is assumed without it.
def Omits : Member → Prop
  | .succeeded => False
  | .errorMessage => result.errorMessage = none
  | .kind => result.kind = .unknown ""
  | .object => result.object = .null

-- The text of one member, with what it tells of the result. The name of a member that is none of its own is a text
-- that can be read, though what it names may be anything.
inductive Entry : List Member → List Char → Prop where
  | own (member : Member) (text : List Char)
      (spelled : Grammar.exact.Spells (.member member.name (result.value member)) text) : Entry [member] text
  | other (name : String) (before quoted between text : List Char) (foreign : ∀ member : Member, name ≠ member.name)
      (leading : Blanks before) (named : SpellsString name quoted) (trailing : Blanks between)
      (formed : WellFormed text) : Entry [] (before ++ quoted ++ between ++ ':' :: text)

inductive Listing : List Member → List Char → Prop where
  | last (members : List Member) (text : List Char) (entry : result.Entry members text) : Listing members text
  | more (members later : List Member) (text more : List Char) (entry : result.Entry members text)
      (listing : Listing later more) : Listing (members ++ later) (text ++ ',' :: more)

-- The text is an object in which every member of the result is listed once or left out.
def ListedIn (text : String) : Prop :=
  ∃ before members listing after, Blanks before ∧ Blanks after ∧ result.Listing members listing ∧ members.Nodup ∧
    (∀ member, member ∉ members → result.Omits member) ∧
    text.toList = before ++ '\x7b' :: (listing ++ '\x7d' :: after)

-- The draft of a result of which some members have been read.
def draft (seen : List Member) : Draft where
  succeeded := if .succeeded ∈ seen then some result.succeeded else none
  errorMessage := if .errorMessage ∈ seen then some result.errorMessage else none
  kind := if .kind ∈ seen then some result.kind else none
  object := if .object ∈ seen then some result.object else none

theorem draft_has (seen : List Member) (member : Member) : (result.draft seen).has member = true ↔ member ∈ seen := by
  cases member <;> simp [draft, Draft.has]

theorem draft_finish (seen : List Member) (complete : ∀ member, member ∉ seen → result.Omits member) :
    (result.draft seen).succeeded = some result.succeeded ∧
      (result.draft seen).finish result.succeeded = result := by
  have told : .succeeded ∈ seen := by
    by_contra unseen
    exact complete .succeeded unseen
  have message : (result.draft seen).errorMessage.getD none = result.errorMessage := by
    by_cases known : .errorMessage ∈ seen
    · simp [draft, known]
    · have omitted : result.errorMessage = none := complete .errorMessage known
      simp [draft, known, omitted]
  have kind : (result.draft seen).kind.getD .unnamed = result.kind := by
    by_cases known : .kind ∈ seen
    · simp [draft, known]
    · have omitted : result.kind = .unknown "" := complete .kind known
      simp [draft, known, omitted, Kind.unnamed]
  have object : (result.draft seen).object.getD .null = result.object := by
    by_cases known : .object ∈ seen
    · simp [draft, known]
    · have omitted : result.object = .null := complete .object known
      simp [draft, known, omitted]
  refine ⟨by simp [draft, told], ?_⟩
  rw [Draft.finish, message, kind, object]

-- One round of reading. Where the text goes on is found behind the blanks.
theorem other_read (name : String) (before quoted between text : List Char)
    (foreign : ∀ member : Member, name ≠ member.name) (leading : Blanks before) (named : SpellsString name quoted)
    (trailing : Blanks between) (formed : WellFormed text) (draft : Draft) (rest : List Char) (ends : Ends rest) :
    ∃ start left, skipBlanks (before ++ quoted ++ between ++ ':' :: text ++ rest) = '"' :: start ∧
      skipBlanks left = skipBlanks rest ∧
      ∀ fuel, readMembers (fuel + 1) draft (.more start) = (do readMembers fuel draft (← nextMember left)) := by
  obtain ⟨units, each, rfl⟩ := named
  have first := string_read name _ (between ++ ':' :: (text ++ rest)) ⟨units, each, rfl⟩
  obtain ⟨left, skipped, blank⟩ := spelled_skipped _ _ formed (fuelFor (between ++ ':' :: (text ++ rest))) rest
    (by simp [fuelFor]; omega) ends
  refine ⟨_, left, member_starts before _ between text rest leading, blank, fun fuel => ?_⟩
  rw [readMembers, first]
  simp [bind, Except.bind, foreign_name name foreign, colon_read between _ trailing, skipped]

theorem entry_some (members : List Member) (text : List Char) (entry : result.Entry members text) : 0 < text.length := by
  cases entry with
  | own member _ spelled => exact member_some _ _ _ text spelled
  | other => simp

section Reading

variable (plain : result.object.Plain objectDepth) (kind : Kind.ofName result.kind.name = result.kind)

include plain kind

theorem draft_read (seen : List Member) (member : Member) (text : List Char)
    (spelled : Grammar.exact.Spells (.element (result.value member)) text) (fuel : Nat) (rest : List Char)
    (lasts : 2 * text.length ≤ fuel + 1) (ends : Ends rest) :
    ∃ left, (result.draft seen).read fuel (text ++ rest) member = .ok (result.draft (member :: seen), left) ∧
      skipBlanks left = skipBlanks rest := by
  cases member with
  | succeeded =>
      obtain ⟨left, read, blank⟩ := word_read readBool _ result.succeeded (bool_read _) (by simp) text spelled rest
      exact ⟨left, by simp [Draft.read, read, draft, bind, Except.bind], blank⟩
  | errorMessage =>
      have single : (∀ items, result.value .errorMessage ≠ .array items) ∧
          ∀ members, result.value .errorMessage ≠ .object members := by
        cases tells : result.errorMessage <;> simp [value, tells]
      obtain ⟨left, read, blank⟩ :=
        word_read readOptionalText _ result.errorMessage (optional_text_read _) single text spelled rest
      exact ⟨left, by simp [Draft.read, read, draft, bind, Except.bind], blank⟩
  | kind =>
      obtain ⟨left, read, blank⟩ := word_read readKind _ result.kind (kind_read _ kind) (by simp) text spelled rest
      exact ⟨left, by simp [Draft.read, read, draft, bind, Except.bind], blank⟩
  | object =>
      obtain ⟨left, read, blank⟩ := spelled_read _ _ spelled objectDepth fuel rest plain lasts ends
      exact ⟨left, by simp [Draft.read, read, draft, bind, Except.bind, value], blank⟩

theorem own_read (member : Member) (text : List Char)
    (spelled : Grammar.exact.Spells (.member member.name (result.value member)) text) (seen : List Member)
    (unseen : member ∉ seen) (rest : List Char) (ends : Ends rest) :
    ∃ start left, skipBlanks (text ++ rest) = '"' :: start ∧ skipBlanks left = skipBlanks rest ∧
      ∀ fuel, readMembers (fuel + 1) (result.draft seen) (.more start) =
        (do readMembers fuel (result.draft (member :: seen)) (← nextMember left)) := by
  cases spelled with
  | member _ _ before quoted between text leading named trailing spelled =>
      obtain ⟨units, each, rfl⟩ := named
      have first := string_read member.name _ (between ++ ':' :: (text ++ rest)) ⟨units, each, rfl⟩
      obtain ⟨left, read, blank⟩ := draft_read result plain kind seen member text spelled
        (fuelFor (between ++ ':' :: (text ++ rest))) rest (by simp [fuelFor]; omega) ends
      refine ⟨_, left, member_starts before _ between text rest leading, blank, fun fuel => ?_⟩
      have new : (result.draft seen).has member = false := by
        rw [Bool.eq_false_iff, ne_eq, draft_has]
        exact unseen
      rw [readMembers, first]
      simp [bind, Except.bind, member_named, new, colon_read between _ trailing, read]

theorem entry_read (members : List Member) (text : List Char) (entry : result.Entry members text) (seen : List Member)
    (unseen : ∀ member ∈ members, member ∉ seen) (rest : List Char) (ends : Ends rest) :
    ∃ start left, skipBlanks (text ++ rest) = '"' :: start ∧ skipBlanks left = skipBlanks rest ∧
      ∀ fuel, readMembers (fuel + 1) (result.draft seen) (.more start) =
        (do readMembers fuel (result.draft (members ++ seen)) (← nextMember left)) := by
  cases entry with
  | own member _ spelled =>
      exact own_read result plain kind member text spelled seen (unseen member List.mem_cons_self) rest ends
  | other name before quoted between text foreign leading named trailing formed =>
      exact other_read name before quoted between text foreign leading named trailing formed _ rest ends

-- From member to member, what has been seen grows by what the text goes on to list.
theorem listing_read (members : List Member) (text : List Char) (listing : result.Listing members text)
    (distinct : members.Nodup) (seen : List Member) (unseen : ∀ member ∈ members, member ∉ seen)
    (complete : ∀ member, member ∉ members → member ∉ seen → result.Omits member) (fuel : Nat) (rest : List Char)
    (lasts : text.length < fuel) :
    ∃ start, skipBlanks (text ++ '\x7d' :: rest) = '"' :: start ∧
      readMembers fuel (result.draft seen) (.more start) = .ok (result, rest) := by
  induction listing generalizing seen fuel with
  | last members text entry =>
      have some := entry_some result members text entry
      obtain ⟨fuel, rfl⟩ : ∃ before, fuel = before + 2 := ⟨fuel - 2, by omega⟩
      obtain ⟨start, left, begins, blank, read⟩ := entry_read result plain kind members text entry seen unseen
        ('\x7d' :: rest) (ends_separator _ _ (by decide))
      obtain ⟨told, finished⟩ := draft_finish result (members ++ seen) fun member absent =>
        complete member (absent ∘ List.mem_append_left seen) (absent ∘ List.mem_append_right members)
      refine ⟨start, begins, ?_⟩
      rw [read, next_member_end left rest blank]
      simp [bind, Except.bind, readMembers, told, finished]
  | more members later text more entry _ ih =>
      obtain ⟨_, distinct, apart⟩ := List.nodup_append.mp distinct
      simp only [List.length_append, List.length_cons] at lasts
      obtain ⟨fuel, rfl⟩ : ∃ before, fuel = before + 1 := ⟨fuel - 1, by omega⟩
      obtain ⟨start, left, begins, blank, read⟩ := entry_read result plain kind members text entry seen
        (fun member listed => unseen member (List.mem_append_left later listed)) (',' :: (more ++ '\x7d' :: rest))
        (ends_separator _ _ (by decide))
      have unseenLater : ∀ member ∈ later, member ∉ members ++ seen := by
        intro member listed known
        rcases List.mem_append.mp known with here | before
        · exact apart member here member listed rfl
        · exact unseen member (List.mem_append_right members listed) before
      obtain ⟨next, comes, others⟩ := ih distinct (members ++ seen) unseenLater
        (fun member absent unknown => complete member
          (fun listed => (List.mem_append.mp listed).elim (unknown ∘ List.mem_append_left seen) absent)
          (unknown ∘ List.mem_append_right members))
        fuel (by omega)
      rw [List.append_assoc, List.cons_append]
      refine ⟨start, begins, ?_⟩
      rw [read, next_member_read left _ next blank comes]
      exact others

theorem listed_read (text : String) (listed : result.ListedIn text) : decode text = .ok result := by
  obtain ⟨before, members, listing, after, leading, trailing, lists, distinct, complete, whole⟩ := listed
  obtain ⟨start, begins, read⟩ := listing_read result plain kind members listing lists distinct [] (by simp)
    (fun member absent _ => complete member absent) ((listing ++ '\x7d' :: after).length + 1) after
    (by rw [List.length_append]; omega)
  have opened : skipBlanks text.toList = '\x7b' :: (listing ++ '\x7d' :: after) := by
    rw [whole, skip_blanks_append before _ leading, skip_blanks_stop _ _ rfl]
  have found : readResult text.toList = .ok (result, after) := by
    unfold readResult
    rw [opened]
    simp only [first_member_read _ _ begins, bind, Except.bind]
    exact read
  have ended : skipBlanks after = [] := by
    have nothing := skip_blanks_append after [] trailing
    rwa [List.append_nil] at nothing
  simp [decode, found, atEnd, ended, bind, Except.bind]

end Reading

theorem value_plain (plain : result.object.Plain objectDepth) (member : Member) :
    (result.value member).Plain objectDepth := by
  cases member with
  | succeeded => exact .bool _ _
  | errorMessage =>
      unfold value
      cases result.errorMessage with
      | none => exact .null _
      | some text => exact .string _ text
  | kind => exact .string _ _
  | object => exact plain

theorem own_printed (plain : result.object.Plain objectDepth) (member : Member) :
    result.Entry [member] (printString member.name ++ ':' :: printValue (result.value member)) :=
  .own member _ (member_printed member.name _ (value_printed objectDepth _ (value_plain result plain member)))

-- A result is written without blanks and with all its members.
theorem encode_listed (plain : result.object.Plain objectDepth) : result.ListedIn result.encode := by
  have printed (member : Member) := own_printed result plain member
  refine ⟨[], [.succeeded, .errorMessage, .kind, .object], _, [], no_blanks, no_blanks,
    .more _ _ _ _ (printed .succeeded) (.more _ _ _ _ (printed .errorMessage)
      (.more _ _ _ _ (printed .kind) (.last _ _ (printed .object)))), by decide, ?_, ?_⟩
  · intro member absent
    cases member <;> simp at absent
  · unfold encode
    rw [String.toList_ofList]
    cases succeeds : result.succeeded <;> cases tells : result.errorMessage <;>
      simp [value, Member.name, printValue, succeeds, tells]

end Result

theorem listed_results_are_read (result : Result) (plain : result.object.Plain 126)
    (known : ∀ name, result.kind = .unknown name → name ∉ ["BLOCK", "BLOCK_HEADER", "ADDRESS", "TRANSACTION"]) :
    (∀ text, result.ListedIn text → Result.decode text = .ok result) ∧ Result.decode result.encode = .ok result ∧
      ∀ name, (Kind.ofName name).name = name := by
  have read := Result.listed_read result plain (kind_restored result.kind known)
  exact ⟨read, read _ (Result.encode_listed result plain), kind_name_kept⟩

-- A block of which the kind is written with an escape. The error message is left out, and there is a note that says
-- nothing about the result.
def escapedBlock : Result := ⟨true, none, .block, .object [("height", .number (.integer (-5)))]⟩

def escapedBlockText : String :=
  "\x7b \"note\":[1e5], \"object\":\x7b\"height\":-5\x7d,\"objectType\": \"\\u0042LOCK\",\"wasSuccess\":true\x7d"

theorem escaped_kind_spelled : SpellsString "BLOCK" ['"', '\\', 'u', '0', '0', '4', '2', 'L', 'O', 'C', 'K', '"'] := by
  have digit (value : Nat) (c : Char) (small : value < 16) (same : c = Number.hexDigit value) : HexDigit value c :=
    ⟨small, .inl same⟩
  have plain (c : Char) (unescaped : c ≠ '"' ∧ c ≠ '\\' ∧ 0x20 ≤ c.toNat) : SpellsChar c [c] := .plain c unescaped
  have quad : HexQuad 'B'.toNat ['0', '0', '4', '2'] :=
    .digits 0 0 4 2 '0' '0' '4' '2' (digit _ _ (by decide) (by decide)) (digit _ _ (by decide) (by decide))
      (digit _ _ (by decide) (by decide)) (digit _ _ (by decide) (by decide))
  exact ⟨[['\\', 'u', '0', '0', '4', '2'], ['L'], ['O'], ['C'], ['K']],
    .cons (.code 'B' _ quad) (.cons (plain 'L' (by decide)) (.cons (plain 'O' (by decide)) (.cons (plain 'C' (by decide))
      (.cons (plain 'K' (by decide)) .nil)))), rfl⟩

theorem note_formed : WellFormed ['[', '1', 'e', '5', ']'] := by
  have number : NumberText ['1', 'e', '5'] :=
    ⟨[], ['1'], [], ['e', '5'], by decide, ⟨⟨by decide, List.forall_mem_singleton.mpr rfl⟩, by decide⟩, .inl rfl,
      .inr ⟨'e', [], ['5'], by decide, by decide, ⟨by decide, List.forall_mem_singleton.mpr rfl⟩, rfl⟩, rfl⟩
  have item : Grammar.loose.Spells (.value ()) ['1', 'e', '5'] := .scalar () _ (ScalarText.number _ number)
  have list : Grammar.loose.Spells (.value ()) ['[', '1', 'e', '5', ']'] :=
    .list () [()] _ trivial (.lastItem () _ (.element () [] _ [] no_blanks item no_blanks))
  exact .element () [] _ [] no_blanks list no_blanks

theorem escaped_block_is_read :
    escapedBlock.ListedIn escapedBlockText ∧ Result.decode escapedBlockText = .ok escapedBlock := by
  have plain : escapedBlock.object.Plain 126 :=
    .object 125 _ (List.pairwise_singleton _ _)
      (List.forall_mem_singleton.mpr (.integer 125 (-5) (by decide) (by decide)))
  have blank : Blanks [' '] := List.forall_mem_singleton.mpr rfl
  have note : escapedBlock.Entry [] _ :=
    .other "note" [' '] _ [] _ (fun member => by cases member <;> decide) blank (string_printed "note") no_blanks note_formed
  have object : escapedBlock.Entry [.object] _ :=
    .own .object _ (.member _ _ [' '] _ [] _ blank (string_printed "object") no_blanks
      (element_printed _ _ (value_printed 126 _ plain)))
  have kind : escapedBlock.Entry [.kind] _ :=
    .own .kind _ (.member _ _ [] _ [] _ no_blanks (string_printed "objectType") no_blanks
      (.element _ [' '] _ [] blank (.scalar _ _ (.string "BLOCK" _ escaped_kind_spelled)) no_blanks))
  have listed : escapedBlock.ListedIn escapedBlockText := by
    refine ⟨[], [.object, .kind, .succeeded], _, [], no_blanks, no_blanks,
      .more _ _ _ _ note (.more _ _ _ _ object (.more _ _ _ _ kind
        (.last _ _ (Result.own_printed escapedBlock plain .succeeded)))), by decide, ?_, by decide +kernel⟩
    intro member absent
    cases member with
    | errorMessage => rfl
    | _ => simp at absent
  exact ⟨listed, (listed_results_are_read escapedBlock plain fun _ same => nomatch same).1 _ listed⟩

end ChainExplorer.Search
