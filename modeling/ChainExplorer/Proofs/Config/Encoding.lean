import ChainExplorer.Config.Store
import ChainExplorer.Proofs.Toml.Assignments
import Mathlib.Data.List.Nodup

set_option autoImplicit false

namespace ChainExplorer.Config

-- A member with its text in a file and the value that the text stands for.
structure Entry where
  member : Member
  text : List Char
  value : Toml.Value

def Entry.assignment (entry : Entry) : Toml.Assignment := ⟨entry.member.name, entry.text, entry.value⟩

def textEntry (member : Member) (text : String) : Entry := ⟨member, Toml.writeString text.toList, .string text⟩

def optionalEntry (member : Member) (text : Option String) : List Entry := (text.map (textEntry member)).toList

def entries (config : Config) : List Entry :=
  [textEntry .endpoint config.endpoint, ⟨.settleDelay, Nat.toDigits 10 config.settleDelay, .integer config.settleDelay⟩]
    ++ optionalEntry .logFile config.logFile
    ++ [⟨.ignoreStale, if config.ignoreStale then "true".toList else "false".toList, .boolean config.ignoreStale⟩]
    ++ optionalEntry .userAgent config.userAgent

theorem optional_lines (member : Member) (text : Option String) :
    optionalLine member text = (optionalEntry member text).flatMap fun entry => entry.assignment.line := by
  cases text with
  | none => rfl
  | some text => simp [optionalLine, optionalEntry, textEntry, line, Entry.assignment, Toml.Assignment.line]

theorem encoded_lines (config : Config) (fits : config.settleDelay < delayLimit) :
    config.encode? = some (String.ofList (config.entries.flatMap fun entry => entry.assignment.line)) := by
  rw [encode?, if_pos fits, entries, List.flatMap_append, List.flatMap_append, List.flatMap_append, ← optional_lines,
    ← optional_lines]
  simp only [line, textEntry, Entry.assignment, Toml.Assignment.line, List.flatMap_cons, List.flatMap_nil,
    List.append_nil, List.append_assoc]

theorem bare_name (member : Member) : Toml.Bare member.name := by
  cases member <;> exact ⟨List.cons_ne_nil _ _, List.all_eq_true.mp rfl⟩

theorem name_injective : Function.Injective Member.name := by
  intro a b same
  cases a <;> cases b <;> first | rfl | exact absurd same (by decide)

-- No name of a member is a path.
theorem name_resolves (member : Member) (value : Toml.Value) : resolve member.name value = (member.name, value) := by
  cases member <;> rfl

theorem text_sound (member : Member) (text : String) : (textEntry member text).assignment.Sound :=
  ⟨bare_name member, Toml.denotes_string text⟩

theorem optional_sound (member : Member) (text : Option String) (entry : Entry)
    (present : entry ∈ optionalEntry member text) : entry.assignment.Sound := by
  obtain ⟨kept, -, rfl⟩ := Option.map_eq_some_iff.mp (Option.mem_toList.mp present)
  exact text_sound member kept

theorem entries_sound (config : Config) (fits : config.settleDelay < delayLimit) (entry : Entry)
    (present : entry ∈ config.entries) : entry.assignment.Sound := by
  simp only [entries, List.mem_append, List.mem_cons, List.not_mem_nil, or_false] at present
  rcases present with (((rfl | rfl) | log) | rfl) | agent
  · exact text_sound .endpoint config.endpoint
  · exact ⟨bare_name .settleDelay, Toml.denotes_natural config.settleDelay fits⟩
  · exact optional_sound .logFile config.logFile entry log
  · exact ⟨bare_name .ignoreStale, Toml.denotes_boolean config.ignoreStale⟩
  · exact optional_sound .userAgent config.userAgent entry agent

theorem entries_distinct (config : Config) :
    ((config.entries.map Entry.assignment).map Toml.Assignment.name).Nodup := by
  have members : (config.entries.map Entry.member).Nodup := by
    obtain ⟨endpoint, settleDelay, logFile, ignoreStale, userAgent⟩ := config
    cases logFile <;> cases userAgent
    · exact (by decide : [Member.endpoint, .settleDelay, .ignoreStale].Nodup)
    · exact (by decide : [Member.endpoint, .settleDelay, .ignoreStale, .userAgent].Nodup)
    · exact (by decide : [Member.endpoint, .settleDelay, .logFile, .ignoreStale].Nodup)
    · exact (by decide : [Member.endpoint, .settleDelay, .logFile, .ignoreStale, .userAgent].Nodup)
  simpa only [List.map_map, Function.comp_def, Entry.assignment] using List.Nodup.map name_injective members

def document (config : Config) : Toml.Document :=
  config.entries.map fun entry => (entry.member.name, entry.value)

theorem assignments_sound (config : Config) (fits : config.settleDelay < delayLimit) :
    ∀ assignment ∈ config.entries.map Entry.assignment, assignment.Sound :=
  List.forall_mem_map.mpr fun entry present => entries_sound config fits entry present

theorem encoded_read (config : Config) (fits : config.settleDelay < delayLimit) :
    Toml.read? (String.ofList (config.entries.flatMap fun entry => entry.assignment.line)) = some config.document := by
  have read := Toml.assignments_read _ (assignments_sound config fits) (entries_distinct config)
  rw [List.flatMap_map, List.map_map] at read
  exact read

theorem member_found (config : Config) (member : Member) :
    find? config.document member = (config.entries.map fun entry => (entry.member, entry.value)).lookup member := by
  rw [find?, document, List.map_map]
  induction config.entries with
  | nil => rfl
  | cons entry entries ih =>
      simp only [List.map_cons, Function.comp_apply, name_resolves, List.lookup_cons]
      have alike : (member.name == entry.member.name) = (member == entry.member) := by
        rw [Bool.eq_iff_iff, beq_iff_eq, beq_iff_eq]
        exact name_injective.eq_iff
      rw [alike]
      cases member == entry.member with
      | true => rfl
      | false => exact ih

theorem read_present {α : Type} (document : Toml.Document) (member : Member)
    (coerce : Toml.Value → Except Mismatch α) (fallback result : α) (value : Toml.Value)
    (found : find? document member = some value) (means : coerce value = .ok result) :
    read document member coerce fallback = .ok result := by
  simp only [read, found, means]

theorem read_optional (document : Toml.Document) (member : Member) (text : Option String)
    (found : find? document member = text.map .string) :
    read document member (fun value => (asText value).map some) none = .ok text := by
  cases text with
  | none => simp only [read, found, Option.map_none]
  | some text => exact read_present document member _ none (some text) (.string text) found rfl

theorem document_read (config : Config) : ofDocument config.document = .ok config := by
  have endpoint := read_present config.document .endpoint asText default.endpoint config.endpoint
    (.string config.endpoint) (by rw [member_found]; rfl) rfl
  have settleDelay := read_present config.document .settleDelay asCount default.settleDelay config.settleDelay
    (.integer config.settleDelay) (by rw [member_found]; rfl) rfl
  have logFile := read_optional config.document .logFile config.logFile
    (by rw [member_found, entries]; cases config.logFile <;> cases config.userAgent <;> rfl)
  have ignoreStale := read_present config.document .ignoreStale asBool default.ignoreStale config.ignoreStale
    (.boolean config.ignoreStale) (by rw [member_found, entries]; cases config.logFile <;> rfl) rfl
  have userAgent := read_optional config.document .userAgent config.userAgent
    (by rw [member_found, entries]; cases config.logFile <;> cases config.userAgent <;> rfl)
  rw [ofDocument, endpoint, settleDelay, show default.logFile = none from rfl, logFile, ignoreStale,
    show default.userAgent = none from rfl, userAgent]
  rfl

theorem encoded_fits (config : Config) : config.encode?.isSome ↔ config.settleDelay < delayLimit := by
  by_cases fits : config.settleDelay < delayLimit <;> simp [encode?, fits]

theorem unmarked (chars : List Char) (plain : chars.head? ≠ some '\uFEFF') :
    withoutMark (String.ofList chars) = String.ofList chars := by
  cases chars with
  | nil => rfl
  | cons c chars =>
      rw [withoutMark, String.toList_ofList]
      split <;> simp_all

theorem decode_encoded (config : Config) (text : String) (encoded : config.encode? = some text) :
    decode (withoutMark text) = .ok config := by
  have fits := (encoded_fits config).mp (Option.isSome_of_eq_some encoded)
  rw [encoded_lines config fits, Option.some.injEq] at encoded
  subst encoded
  have plain := Toml.lines_open _ (assignments_sound config fits)
  rw [List.flatMap_map] at plain
  rw [unmarked _ plain, decode, encoded_read config fits]
  exact document_read config

example : default.encode? =
    some "endpoint = \"http://localhost:8081\"\nsettle_delay_ms = 200\nignore_stale_responses = false\n" := by
  decide +kernel

end ChainExplorer.Config
