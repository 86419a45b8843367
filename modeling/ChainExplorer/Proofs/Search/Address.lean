import ChainExplorer.Proofs.Url.Authority
import ChainExplorer.Proofs.Url.Form
import ChainExplorer.Proofs.Url.Path
import ChainExplorer.Search.Client

set_option autoImplicit false

namespace ChainExplorer

theorem Url.parse_web_path (text : String) (url : Url) (parsed : parse text = .ok url) (web : url.IsWeb) :
    Path.Normal url.path := by
  obtain ⟨special, _⟩ := web_special url web
  obtain ⟨rest, _, read⟩ := parse_web text url parsed web
  obtain ⟨user, host, port, parts⟩ := read_authority_parts _ _ url read
  rw [special] at parts
  rw [congrArg Url.path parts]
  exact Path.read_path_normal _

namespace Search.Client

open Url (IsWeb Path.Normal)

theorem search_path_settled :
    ∀ segment ∈ ["api".toList, "v1".toList, "search".toList], Url.Path.Settled segment := by
  have plain : ["api".toList, "v1".toList, "search".toList].all fun segment =>
      segment.all fun c => Url.mustEncode .path c = false ∧ c ≠ '/' ∧ c ≠ '\\' := by decide
  have encoded : ∀ segment ∈ ["api".toList, "v1".toList, "search".toList], Url.Path.Encoded segment :=
    fun segment member => List.all_iff_forall_prop.mp (List.all_eq_true.mp plain segment member)
  have undotted : ∀ segment ∈ ["api".toList, "v1".toList, "search".toList],
      Url.Path.isDot segment = false ∧ Url.Path.isTwoDots segment = false := by decide
  exact fun segment member => ⟨encoded segment member, (undotted segment member).1, (undotted segment member).2⟩

theorem search_path_text : searchPath = "api".toList ++ Url.Path.text ["v1".toList, "search".toList] := by decide

-- The path of the search, behind the path of the explorer.
def searchPathOf (path : List Char) : List Char :=
  path ++ (if path.getLast? = some '/' then [] else ['/']) ++ searchPath

theorem search_url_parts (explorer : Url) (web : explorer.IsWeb) (normal : Url.Path.Normal explorer.path) :
    searchUrl explorer = { explorer with path := searchPathOf explorer.path, query := none, fragment := none } := by
  obtain ⟨special, _⟩ := Url.web_special explorer web
  have behind (base : Url) (same : base.scheme = explorer.scheme) (read : Url.Path.Normal base.path)
      (ends : base.path.getLast? = some '/') :
      base.join searchPath = { base with path := base.path ++ searchPath, query := none, fragment := none } := by
    have joined := Url.join_behind base (same ▸ special) read ends _ _ search_path_settled
    rw [← search_path_text] at joined
    rw [← joined]
    rfl
  unfold searchUrl searchPathOf
  dsimp only
  by_cases ends : explorer.path.getLast? = some '/'
  · rw [if_pos ends, if_pos ends, List.append_nil]
    exact behind explorer rfl normal ends
  · have slashed := Url.Path.normal_slash _ normal
    have set : explorer.setPath (explorer.path ++ ['/']) = { explorer with path := explorer.path ++ ['/'] } := by
      rw [Url.setPath, special, Url.Path.normal_reads_itself _ slashed]
    rw [if_neg ends, if_neg ends, set]
    exact behind { explorer with path := explorer.path ++ ['/'] } rfl slashed List.getLast?_concat

theorem explorer_url_accepts (endpoint : String) (url : Url) :
    explorerUrl endpoint = .ok url ↔ Url.parse endpoint = .ok url ∧ url.IsWeb := by
  unfold explorerUrl
  cases Url.parse endpoint with
  | error problem => simp
  | ok parsed =>
      dsimp only
      split
      · rename_i web
        constructor
        · intro same
          cases same
          exact ⟨rfl, web⟩
        · rintro ⟨same, _⟩
          cases same
          rfl
      · rename_i other
        constructor
        · intro same
          cases same
        · rintro ⟨same, web⟩
          cases same
          exact absurd web other

theorem explorer_url_refuses (endpoint : String) (problem : BackendError)
    (refused : explorerUrl endpoint = .error problem) :
    ∃ message, problem = .invalidEndpoint message := by
  unfold explorerUrl at refused
  split at refused
  · cases refused
    exact ⟨_, rfl⟩
  · split at refused
    · cases refused
    · cases refused
      exact ⟨_, rfl⟩

theorem connect_refuses (endpoint : String) (userAgent : Option String) :
    (∃ message, connect endpoint userAgent = .error (.invalidEndpoint message)) ↔
      ¬ ∃ url, Url.parse endpoint = .ok url ∧ url.IsWeb := by
  cases reached : explorerUrl endpoint with
  | error problem =>
      obtain ⟨message, rfl⟩ := explorer_url_refuses endpoint problem reached
      refine iff_of_true ⟨message, by rw [connect, reached]; rfl⟩ ?_
      rintro ⟨url, accepts⟩
      have accepted := (explorer_url_accepts endpoint url).mpr accepts
      rw [reached] at accepted
      cases accepted
  | ok url =>
      refine iff_of_false ?_ fun refused => refused ⟨url, (explorer_url_accepts endpoint url).mp reached⟩
      rintro ⟨message, failed⟩
      rw [connect, reached] at failed
      dsimp only [bind, Except.bind] at failed
      split at failed <;> cases failed

theorem target_text (client : Client) (bare : client.url.query = none) (query : String) :
    client.target query = String.ofList (client.url.path ++ '?' :: Url.Form.writePair "query" query) := by
  rw [target, Url.target, Url.addPair, bare]
  rfl

-- What is asked for is the path and, as its query, one pair.
theorem target_parts (client : Client) (bare : client.url.query = none) (unmarked : Url.Unmarked client.url.path)
    (query : String) :
    Url.splitPath (client.target query).toList =
      (client.url.path, some (Url.Form.writePair "query" query), none) := by
  have characters := (Url.Form.pair_characters _ _ (Url.Form.write_pair_spells "query" query)).2
  have whole : '#' ∉ Url.Form.writePair "query" query := fun member => (characters '#' member).2.2 rfl
  have split := Url.split_path_tail client.url.path (some (Url.Form.writePair "query" query)) none unmarked whole
  rw [Url.tail, Url.marked, Url.marked, List.append_nil] at split
  rw [target_text client bare query, String.toList_ofList, split]

theorem sent_pair (query : String) : Url.Form.pairs (Url.Form.writePair "query" query) = [("query", query)] :=
  Url.Form.pairs_spelled _ _ (.last _ _ (Url.Form.write_pair_spells "query" query))

theorem target_sends (client : Client) (bare : client.url.query = none) (unmarked : Url.Unmarked client.url.path)
    (query : String) :
    ∃ sent, client.target query = String.ofList (client.url.path ++ '?' :: sent) ∧
      Url.splitPath (client.target query).toList = (client.url.path, some sent, none) ∧
      Url.Form.pairs sent = [("query", query)] :=
  ⟨_, target_text client bare query, target_parts client bare unmarked query, sent_pair query⟩

theorem targets_differ (client : Client) (bare : client.url.query = none) (query other : String)
    (same : client.target query = client.target other) : query = other := by
  rw [target_text client bare query, target_text client bare other] at same
  have pairs := (List.cons.inj (List.append_cancel_left (String.ofList_injective same))).2
  have read := congrArg Url.Form.pairs pairs
  rw [sent_pair query, sent_pair other] at read
  exact congrArg Prod.snd (List.cons.inj read).1

theorem search_path_unmarked (path : List Char) (normal : Url.Path.Normal path) : Url.Unmarked (searchPathOf path) := by
  have absent (mark : Char) (encodes : mark ∉ path) (other : mark ∉ '/' :: searchPath) : mark ∉ searchPathOf path := by
    unfold searchPathOf
    split
    · simpa [encodes] using fun member => other (List.mem_cons_of_mem _ member)
    · simpa [encodes] using other
  have encoded := Url.Path.normal_encoded path normal
  exact ⟨absent '?' (fun member => absurd (encoded '?' member) (by decide)) (by decide),
    absent '#' (fun member => absurd (encoded '#' member) (by decide)) (by decide)⟩

theorem searches_go_behind_the_endpoint (endpoint : String) (userAgent : Option String) :
    ((∃ message, connect endpoint userAgent = .error (.invalidEndpoint message)) ↔
        ¬ ∃ url, Url.parse endpoint = .ok url ∧ url.IsWeb) ∧
      ∀ url, Url.parse endpoint = .ok url → url.IsWeb → isHeader (userAgent.getD defaultUserAgent) →
        ∃ client, connect endpoint userAgent = .ok client ∧
          client.url = { url with path := searchPathOf url.path, query := none, fragment := none } ∧
          (∀ query, ∃ sent, client.target query = String.ofList (client.url.path ++ '?' :: sent) ∧
            Url.splitPath (client.target query).toList = (client.url.path, some sent, none) ∧
            Url.Form.pairs sent = [("query", query)]) ∧
          ∀ query other, client.target query = client.target other → query = other := by
  refine ⟨connect_refuses endpoint userAgent, fun url parsed web header => ?_⟩
  have normal := Url.parse_web_path endpoint url parsed web
  have reached := (explorer_url_accepts endpoint url).mpr ⟨parsed, web⟩
  have address := search_url_parts url web normal
  have bare : (searchUrl url).query = none := congrArg Url.query address
  have unmarked : Url.Unmarked (searchUrl url).path := by
    rw [address]
    exact search_path_unmarked url.path normal
  refine ⟨⟨searchUrl url, userAgent.getD defaultUserAgent⟩, ?_, address, target_sends _ bare unmarked,
    targets_differ _ bare⟩
  rw [connect, reached]
  exact if_pos header

-- An endpoint with all that an address may hold, and a query that looks like a form itself.
def crowdedEndpoint : String := "https://me:secret@[::1]:8443/a/../b c?query=x#y"

theorem crowded_endpoint_is_searched :
    ∃ client, connect crowdedEndpoint none = .ok client ∧
      client.url.text = "https://me:secret@[::1]:8443/b%20c/api/v1/search" ∧
      client.target "a&query=b é" = "/b%20c/api/v1/search?query=a%26query%3Db+%C3%A9" := by
  let url : Url := ⟨"https".toList, "me".toList, some "secret".toList, some (.address6 [0, 0, 0, 0, 0, 0, 0, 1]),
    some 8443, "/b%20c".toList, some "query=x".toList, some "y".toList⟩
  have parsed : Url.parse crowdedEndpoint = .ok url := by decide +kernel
  obtain ⟨_, accepts⟩ := searches_go_behind_the_endpoint crowdedEndpoint none
  obtain ⟨client, connected, address, _, _⟩ := accepts url parsed (.inr rfl) (by decide +kernel)
  refine ⟨client, connected, ?_, ?_⟩
  · rw [address]
    decide +kernel
  · rw [target_text client (congrArg Url.query address), address]
    decide +kernel

end Search.Client
end ChainExplorer
