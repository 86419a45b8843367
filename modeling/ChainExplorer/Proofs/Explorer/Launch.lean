import ChainExplorer.Proofs.Explorer.Debounce
import ChainExplorer.Proofs.Url.Authority
import ChainExplorer.Proofs.Url.Form
import ChainExplorer.Search.Client

set_option autoImplicit false

namespace ChainExplorer

open Search (launchSearch)

namespace Url.Form

theorem spelled_visible (listed : List (String × String)) (source : List Char) (spelled : SpellsPairs listed source) :
    ∀ c ∈ source, isBlank c = false ∧ c ≠ '#' := by
  have shown (pair : String × String) (source : List Char) (spelled : SpellsPair pair source) :
      ∀ c ∈ source, isBlank c = false ∧ c ≠ '#' := by
    intro c member
    obtain ⟨visible, _, other⟩ := (pair_characters pair source spelled).2 c member
    exact ⟨by simpa [isBlank] using visible, other⟩
  induction spelled with
  | none => exact fun c member => nomatch member
  | last pair source spelled => exact shown pair source spelled
  | more pair others source rest spelled _ ih =>
      intro c member
      rcases List.mem_append.mp member with front | back
      · exact shown pair source spelled c front
      · rcases List.mem_cons.mp back with rfl | back
        · decide
        · exact ih c back
  | gap others rest _ ih =>
      intro c member
      rcases List.mem_cons.mp member with rfl | back
      · decide
      · exact ih c back

end Url.Form

theorem launch_first (front : List Char) (query fragment : Option (List Char)) (listed : List (String × String))
    (url : Url) (parsed : Url.parse (String.ofList (front ++ Url.tail query fragment)) = .ok url) (web : url.IsWeb)
    (unmarked : Url.Unmarked front) (spelled : Url.Form.SpellsPairs listed (query.getD [])) :
    launchSearch (String.ofList (front ++ Url.tail query fragment)) =
      (listed.find? fun pair => pair.1 = "search").map Prod.snd := by
  have kept := Url.parsed_query front query fragment url parsed web unmarked (Url.Form.spelled_visible _ _ spelled)
  rw [launchSearch, parsed]
  dsimp only
  rw [Url.parameter?, kept]
  cases query with
  | none =>
      have nothing : listed = [] := (Url.Form.pairs_spelled listed [] spelled).symm
      rw [nothing]
      rfl
  | some query =>
      exact Url.Form.lookup_spelled "search" listed _ (Url.Form.encoded_spells_pairs listed query spelled)

namespace Explorer

theorem load_outbox (explorer : Explorer) (search : Option String) (now : Time) :
    (explorer.load search now).outbox = explorer.outbox ++
      ((search.filter (· ≠ "")).map fun query => ⟨explorer.controller.nextRequest, query⟩).toList := by
  change explorer.outbox ++ (explorer.controller.load search).2.toList = _
  congr 2
  cases search with
  | none => rfl
  | some query =>
      by_cases empty : query = ""
      · subst empty
        rfl
      · have typed : ¬ (explorer.controller.input.setValue query).isEmpty := by
          simpa [Search.Input.isEmpty, Search.Input.setValue] using empty
        have filled : (some query).filter (fun text => decide (text ≠ "")) = some query := by
          simp [Option.filter, empty]
        dsimp only [Search.Controller.load, Search.Controller.search, Search.Controller.submit,
          Search.Controller.request?]
        rw [if_neg typed, filled]
        rfl

-- What loading does once it knows the search.
structure Loads (explorer loaded : Explorer) (search : Option String) (now : Time) : Prop where
  sent : ∀ query, search = some query → query ≠ "" →
    loaded.outbox = explorer.outbox ++ [⟨explorer.controller.nextRequest, query⟩]
  silent : search.getD "" = "" → loaded.outbox = explorer.outbox
  pass : (loaded.formatter.timers.entries.filter fun entry => entry.task = .globalPass) =
    [⟨now + explorer.formatter.settleDelay, explorer.formatter.timers.nextId, .globalPass⟩]
  others : (loaded.formatter.timers.entries.filter fun entry => entry.task ≠ .globalPass) =
    explorer.formatter.timers.entries.filter fun entry => entry.task ≠ .globalPass
  numbers : loaded.formatter.timers.nextId = explorer.formatter.timers.nextId + 1

theorem load_loads (explorer : Explorer) (accountable : explorer.formatter.Accountable []) (search : Option String)
    (now : Time) : explorer.Loads (explorer.load search now) search now := by
  have outbox := load_outbox explorer search now
  obtain ⟨pass, others⟩ := Formatter.request_all_entries explorer.formatter accountable now
  refine ⟨?_, ?_, pass, others, (Formatter.request_number explorer.formatter now).2⟩
  · rintro query rfl present
    rw [outbox]
    simp [Option.filter, present]
  · intro nothing
    rw [outbox]
    cases search with
    | none => exact List.append_nil _
    | some query =>
        have empty : query = "" := nothing
        subst empty
        exact List.append_nil _

theorem launch_url_starts_its_first_search (front : List Char) (query fragment : Option (List Char))
    (listed : List (String × String)) (unmarked : Url.Unmarked front)
    (spelled : Url.Form.SpellsPairs listed (query.getD [])) :
    let text := String.ofList (front ++ Url.tail query fragment)
    (∀ base, Url.parse (String.ofList front) = .ok base → base.IsWeb → Url.endsVisibly front →
      ∃ rest, Url.parse text = .ok (base.withTail query rest)) ∧
    ∀ url, Url.parse text = .ok url → url.IsWeb →
      launchSearch text = (listed.find? fun pair => pair.1 = "search").map Prod.snd ∧
      ∀ ignoreStale settleDelay now,
        (∀ actions : List Action,
          let explorer := actions.foldl act (start ignoreStale settleDelay)
          explorer.Loads (explorer.load (launchSearch text) now) (launchSearch text) now) ∧
        (start ignoreStale settleDelay).controller.nextRequest = 1 ∧ (start ignoreStale settleDelay).outbox = [] := by
  intro text
  constructor
  · intro base parsed web ends
    have visible := Url.Form.spelled_visible listed _ spelled
    exact ⟨_, Url.parse_tail front query fragment base parsed web unmarked ends visible⟩
  intro url parsed web
  refine ⟨?_, fun ignoreStale settleDelay now => ⟨?_, rfl, rfl⟩⟩
  · exact launch_first front query fragment listed url parsed web unmarked spelled
  · intro actions explorer
    exact load_loads explorer (acts_accountable ignoreStale settleDelay actions) (launchSearch text) now

section Crowded

open Url (EscapesByte)
open Url.Form (Spells SpellsChar SpellsPairs spells_append spells_plain)

def crowdedFront : List Char := "http://[::1]:8081/a b".toList

-- A name that only looks like the search, one that is escaped, and the search again.
def crowdedQuery : List Char := "Search=x&&sear%63h=caf%c3%A9+1&search=2&flag".toList

def crowded : List (String × String) := [("Search", "x"), ("search", "café 1"), ("search", "2"), ("flag", "")]

def crowdedText : String := String.ofList (crowdedFront ++ Url.tail (some crowdedQuery) (some "search=3".toList))

theorem crowded_spelled : SpellsPairs crowded crowdedQuery := by
  have digit : Spells ['c'] "%63".toList := by
    have byte : EscapesByte 0x63 ['%', '6', '3'] := .digits 0x63 '6' '3' (by decide) (by decide)
    exact ⟨[['%', '6', '3']], .cons (.escaped 'c' _ ⟨[['%', '6', '3']], .cons byte .nil, rfl⟩) .nil, rfl⟩
  have accented : Spells ['é'] "%c3%A9".toList := by
    have lead : EscapesByte 0xC3 ['%', 'c', '3'] := .digits 0xC3 'c' '3' (by decide) (by decide)
    have trail : EscapesByte 0xA9 ['%', 'A', '9'] := .digits 0xA9 'A' '9' (by decide) (by decide)
    have character : SpellsChar 'é' ['%', 'c', '3', '%', 'A', '9'] :=
      .escaped 'é' _ ⟨[['%', 'c', '3'], ['%', 'A', '9']], .cons lead (.cons trail .nil), rfl⟩
    exact ⟨[['%', 'c', '3', '%', 'A', '9']], .cons character .nil, rfl⟩
  have space : Spells [' '] ['+'] := ⟨[['+']], .cons .plus .nil, rfl⟩
  have name : Spells "search".toList "sear%63h".toList := spells_append _ _ _ _ (spells_plain "sear".toList (by decide))
    (spells_append _ _ _ _ digit (spells_plain ['h'] (by decide)))
  have value : Spells "café 1".toList "caf%c3%A9+1".toList :=
    spells_append _ _ _ _ (spells_plain "caf".toList (by decide))
      (spells_append _ _ _ _ accented (spells_append _ _ _ _ space (spells_plain ['1'] (by decide))))
  refine .more ("Search", "x") _ "Search=x".toList _ (Url.Form.write_pair_spells "Search" "x") (.gap _ _ ?_)
  refine .more ("search", "café 1") _ "sear%63h=caf%c3%A9+1".toList _ (.divided _ _ _ _ name (by decide) value) ?_
  refine .more ("search", "2") _ "search=2".toList _ (Url.Form.write_pair_spells "search" "2") ?_
  exact .last ("flag", "") _ (.undivided "flag" _ (spells_plain "flag".toList (by decide)) (by decide) (by decide))

theorem crowded_url_searches_once :
    (∃ url, Url.parse crowdedText = .ok url ∧ url.IsWeb) ∧ launchSearch crowdedText = some "café 1" ∧
      ((start true 200).load (launchSearch crowdedText) 7).outbox = [⟨1, "café 1"⟩] := by
  have parsed : ∃ base, Url.parse (String.ofList crowdedFront) = .ok base ∧ base.IsWeb := by
    let host : Url.Host := .address6 [0, 0, 0, 0, 0, 0, 0, 1]
    refine ⟨⟨"http".toList, [], none, some host, some 8081, "/a%20b".toList, none, none⟩, ?_, .inl rfl⟩
    decide +kernel
  obtain ⟨base, parsed, web⟩ := parsed
  obtain ⟨kept, launched⟩ := launch_url_starts_its_first_search crowdedFront (some crowdedQuery) (some "search=3".toList)
    crowded (by decide) crowded_spelled
  obtain ⟨rest, whole⟩ := kept base parsed web (by decide)
  obtain ⟨first, loads⟩ := launched (base.withTail (some crowdedQuery) rest) whole web
  have found : launchSearch crowdedText = some "café 1" := first
  obtain ⟨every, _, _⟩ := loads true 200 7
  exact ⟨⟨_, whole, web⟩, found, (every []).sent "café 1" found (by decide)⟩

end Crowded

end Explorer
end ChainExplorer
