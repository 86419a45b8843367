import ChainExplorer.Url.Parser
import Mathlib.Data.List.TakeWhile

set_option autoImplicit false

namespace ChainExplorer.Url

theorem drop_while_tail {α : Type} (skips : α → Bool) (front tail : List α)
    (stops : ∀ c, tail.head? = some c → skips c = false) :
    (front ++ tail).dropWhile skips = front.dropWhile skips ++ tail := by
  induction front with
  | nil =>
      cases tail with
      | nil => rfl
      | cons head rest => exact List.dropWhile_cons_of_neg (by simp [stops head rfl])
  | cons head rest ih =>
      by_cases skip : skips head
      · rw [List.cons_append, List.dropWhile_cons_of_pos skip, List.dropWhile_cons_of_pos skip, ih]
      · rw [List.cons_append, List.dropWhile_cons_of_neg skip, List.dropWhile_cons_of_neg skip, List.cons_append]

theorem take_while_tail {α : Type} (takes : α → Bool) (front tail : List α)
    (stops : ∀ c, tail.head? = some c → takes c = false) :
    (front ++ tail).takeWhile takes = front.takeWhile takes := by
  induction front with
  | nil =>
      cases tail with
      | nil => rfl
      | cons head rest => exact List.takeWhile_cons_of_neg (by simp [stops head rfl])
  | cons head rest ih =>
      by_cases take : takes head
      · rw [List.cons_append, List.takeWhile_cons_of_pos take, List.takeWhile_cons_of_pos take, ih]
      · rw [List.cons_append, List.takeWhile_cons_of_neg take, List.takeWhile_cons_of_neg take]

-- The part of a URL behind its path.
def tail (query fragment : Option (List Char)) : List Char := marked '?' query ++ marked '#' fragment

theorem tail_head (query fragment : Option (List Char)) (stops : Char → Bool) (question : stops '?' = false)
    (hash : stops '#' = false) : ∀ c, (tail query fragment).head? = some c → stops c = false := by
  intro c head
  cases query with
  | some query =>
      cases head
      exact question
  | none =>
      cases fragment with
      | some fragment =>
          cases head
          exact hash
      | none => cases head

theorem marked_split (mark : Char) (front : List Char) (part : Option (List Char)) (whole : mark ∉ front) :
    (front ++ marked mark part).takeWhile (· != mark) = front ∧
      (front ++ marked mark part).dropWhile (· != mark) = marked mark part := by
  have before : ∀ c ∈ front, (c != mark) = true := fun c member => bne_iff_ne.mpr fun same => whole (same ▸ member)
  have stops : ∀ c, (marked mark part).head? = some c → (c != mark) = false := by
    intro c head
    cases part with
    | none => cases head
    | some part =>
        cases head
        exact bne_self_eq_false mark
  rw [take_while_tail _ front _ stops, drop_while_tail _ front _ stops]
  exact ⟨List.takeWhile_eq_self_iff.mpr before, by rw [List.dropWhile_eq_nil_iff.mpr before, List.nil_append]⟩

-- A path without the marks of a query and a fragment.
def Unmarked (text : List Char) : Prop := '?' ∉ text ∧ '#' ∉ text

instance (text : List Char) : Decidable (Unmarked text) := inferInstanceAs (Decidable (_ ∧ _))

theorem unmarked_subset (part text : List Char) (unmarked : Unmarked text) (inside : part ⊆ text) : Unmarked part :=
  ⟨fun member => unmarked.1 (inside member), fun member => unmarked.2 (inside member)⟩

theorem split_path_tail (path : List Char) (query fragment : Option (List Char)) (unmarked : Unmarked path)
    (whole : '#' ∉ query.getD []) : splitPath (path ++ tail query fragment) = (path, query, fragment) := by
  have noHash : '#' ∉ path ++ marked '?' query := by
    intro member
    rcases List.mem_append.mp member with front | back
    · exact unmarked.2 front
    · cases query with
      | none => cases back
      | some query => exact whole ((List.mem_cons.mp back).resolve_left (by decide))
  obtain ⟨front, back⟩ := marked_split '#' _ fragment noHash
  obtain ⟨before, behind⟩ := marked_split '?' path query unmarked.1
  unfold splitPath tail
  dsimp only
  rw [← List.append_assoc, front, back, before, behind]
  cases query <;> cases fragment <;> rfl

-- What stands before the path. Nothing at all but an at sign is refused if a path follows.
def readHead (scheme authority : List Char) (bare : Bool) :
    Except Problem ((List Char × Option (List Char)) × Host × Option Nat) := do
  let (user, hostPort) := (splitUser authority).getD ([], authority)
  if authority.head? = some '@' ∧ hostPort.isEmpty ∧ user.isEmpty ∧ !bare then .error .emptyHost
  let (username, password) := readUser user
  let (host, port) ← readHostPort scheme hostPort
  if host = .name [] ∧ !(username.isEmpty ∧ password.isNone) then .error .emptyHost
  .ok ((username, password), host, port)

theorem read_authority_head (scheme text : List Char) :
    let rest := text.dropWhile (!endsAuthority (isSpecial scheme) ·)
    readAuthority scheme text =
      (readHead scheme (text.takeWhile (!endsAuthority (isSpecial scheme) ·)) rest.isEmpty).map fun (user, host, port) =>
        withPath scheme user (some host) port (readPath (isSpecial scheme)) rest := by
  intro rest
  unfold readAuthority readHead
  dsimp only
  split
  · rfl
  · cases readHostPort scheme ((splitUser (text.takeWhile (!endsAuthority (isSpecial scheme) ·))).getD
        ([], text.takeWhile (!endsAuthority (isSpecial scheme) ·))).2 with
    | error problem => rfl
    | ok read =>
        dsimp only [bind, Except.bind]
        split <;> rfl

-- A special scheme wants a host, so the at sign by itself is refused in any case.
theorem read_head_any (scheme authority : List Char) (special : isSpecial scheme) (bare : Bool)
    (head : (List Char × Option (List Char)) × Host × Option Nat) (read : readHead scheme authority bare = .ok head) :
    ∀ other, readHead scheme authority other = .ok head := by
  intro other
  by_cases missing : ((splitUser authority).getD ([], authority)).2.isEmpty
  · have refused : readHostPort scheme ((splitUser authority).getD ([], authority)).2 = .error .emptyHost := by
      rw [List.isEmpty_iff.mp missing]
      exact if_pos ⟨special, rfl⟩
    exfalso
    unfold readHead at read
    dsimp only at read
    rw [refused] at read
    split at read <;> cases read
  · unfold readHead at read ⊢
    dsimp only at read ⊢
    rw [if_neg fun nothing => missing nothing.2.1] at read ⊢
    exact read

theorem authority_stops (scheme : List Char) (query fragment : Option (List Char)) :
    ∀ c, (tail query fragment).head? = some c → (!endsAuthority (isSpecial scheme) c) = false :=
  tail_head query fragment _ (by simp [endsAuthority]) (by simp [endsAuthority])

-- The same URL with a query, as it is encoded, and a fragment.
def withTail (base : Url) (query fragment : Option (List Char)) : Url :=
  { base with
    query := query.map (percentEncode (if isSpecial base.scheme then .specialQuery else .query))
    fragment := fragment.map (percentEncode .fragment) }

theorem read_authority_tail (scheme text : List Char) (query fragment : Option (List Char)) (base : Url)
    (special : isSpecial scheme) (unmarked : Unmarked text) (whole : '#' ∉ query.getD [])
    (read : readAuthority scheme text = .ok base) :
    readAuthority scheme (text ++ tail query fragment) = .ok (base.withTail query fragment) := by
  have stops := authority_stops scheme query fragment
  rw [read_authority_head] at read ⊢
  dsimp only at read ⊢
  rw [take_while_tail _ text _ stops, drop_while_tail _ text _ stops]
  cases head : readHead scheme (text.takeWhile (!endsAuthority (isSpecial scheme) ·))
      (text.dropWhile (!endsAuthority (isSpecial scheme) ·)).isEmpty with
  | error problem =>
      rw [head] at read
      cases read
  | ok parts =>
      rw [head] at read
      rw [read_head_any scheme _ special _ parts head]
      cases read
      have path := unmarked_subset _ _ unmarked (text.dropWhile_subset (p := (!endsAuthority (isSpecial scheme) ·)))
      have alone := split_path_tail _ none none path List.not_mem_nil
      have nothing : tail none none = [] := rfl
      rw [nothing, List.append_nil] at alone
      simp only [Except.map, withPath, alone, split_path_tail _ query fragment path whole]
      rfl

theorem read_authority_parts (scheme text : List Char) (base : Url) (read : readAuthority scheme text = .ok base) :
    ∃ user host port, base = withPath scheme user host port (readPath (isSpecial scheme))
      (text.dropWhile (!endsAuthority (isSpecial scheme) ·)) := by
  rw [read_authority_head] at read
  dsimp only at read
  cases head : readHead scheme (text.takeWhile (!endsAuthority (isSpecial scheme) ·))
      (text.dropWhile (!endsAuthority (isSpecial scheme) ·)).isEmpty with
  | error problem =>
      rw [head] at read
      cases read
  | ok parts =>
      rw [head] at read
      cases read
      exact ⟨_, _, _, rfl⟩

theorem read_file_scheme (scheme text : List Char) (base : Url) (read : readFileUrl scheme text = .ok base) :
    base.scheme = scheme := by
  unfold readFileUrl at read
  split at read
  · rename_i rest
    split at read
    · dsimp only at read
      split at read
      · cases read
        rfl
      · cases host : Host.parse (rest.takeWhile (!endsAuthority true ·)) with
        | error problem =>
            rw [host] at read
            cases read
        | ok host =>
            rw [host] at read
            cases read
            rfl
    · cases read
      rfl
  · cases read
    rfl

theorem read_authority_scheme (scheme text : List Char) (base : Url) (read : readAuthority scheme text = .ok base) :
    base.scheme = scheme := by
  obtain ⟨_, _, _, rfl⟩ := read_authority_parts scheme text base read
  rfl

theorem read_plain_scheme (scheme text : List Char) (base : Url) (read : readPlain scheme text = .ok base) :
    base.scheme = scheme := by
  unfold readPlain at read
  split at read
  · exact read_authority_scheme scheme _ base read
  · cases read
    rfl
  · cases read
    rfl

-- What is passed over at either end of a URL.
def isBlank (c : Char) : Bool := c.toNat ≤ 0x20

def keeps (c : Char) : Bool := !(c == '\t' || c == '\n' || c == '\r')

-- How a text starts once it is cleaned, and how it ends.
def cleanedStart (text : List Char) : List Char := (text.dropWhile isBlank).filter keeps

def cleanedEnd (text : List Char) : List Char := ((text.reverse.dropWhile isBlank).reverse).filter keeps

theorem cleaned_ends (text : List Char) :
    cleaned text = (((text.dropWhile isBlank).reverse.dropWhile isBlank).reverse).filter keeps := rfl

theorem trim_end_stop (front back : List Char) (stop : Char) (stops : isBlank stop = false) :
    ((front ++ stop :: back).reverse.dropWhile isBlank).reverse =
      front ++ stop :: (back.reverse.dropWhile isBlank).reverse := by
  have shown : ∀ c, (stop :: front.reverse).head? = some c → isBlank c = false := by
    intro c head
    cases head
    exact stops
  rw [List.reverse_append, List.reverse_cons, List.append_assoc, List.singleton_append,
    drop_while_tail isBlank back.reverse _ shown, List.reverse_append, List.reverse_cons, List.reverse_reverse,
    List.append_assoc, List.singleton_append]

-- Whether a text keeps its end when it is cleaned.
def endsVisibly (text : List Char) : Bool := text.getLast?.all fun c => !isBlank c

theorem cleaned_visible_end (text : List Char) (ends : endsVisibly text) : cleaned text = cleanedStart text := by
  rcases List.eq_nil_or_concat text with rfl | ⟨body, last, rfl⟩
  · rfl
  · rw [List.concat_eq_append] at ends ⊢
    have shown : isBlank last = false := by simpa [endsVisibly] using ends
    rw [cleaned_ends, cleanedStart, drop_while_tail isBlank body [last] (by simpa using shown),
      trim_end_stop _ [] last shown]
    rfl

theorem cleaned_mark (front back : List Char) (mark : Char) (shown : isBlank mark = false) (kept : keeps mark) :
    cleaned (front ++ mark :: back) = cleanedStart front ++ mark :: cleanedEnd back := by
  have stops : ∀ c, (mark :: back).head? = some c → isBlank c = false := by
    intro c head
    cases head
    exact shown
  rw [cleaned_ends, drop_while_tail isBlank front _ stops, trim_end_stop _ back mark shown, List.filter_append,
    List.filter_cons_of_pos kept]
  rfl

theorem filter_visible (text : List Char) (visible : ∀ c ∈ text, isBlank c = false) : text.filter keeps = text := by
  refine List.filter_eq_self.mpr fun c member => ?_
  have apart (blank : Char) (low : isBlank blank) : (c == blank) = false :=
    beq_false_of_ne fun same => absurd low (by simp [← same, visible c member])
  rw [keeps, apart '\t' (by decide), apart '\n' (by decide), apart '\r' (by decide)]
  rfl

theorem cleaned_end_visible (query : List Char) (fragment : Option (List Char))
    (visible : ∀ c ∈ query, isBlank c = false) :
    cleanedEnd (query ++ marked '#' fragment) = query ++ marked '#' (fragment.map cleanedEnd) := by
  have kept := filter_visible query visible
  cases fragment with
  | some fragment =>
      rw [cleanedEnd, marked, trim_end_stop query fragment '#' (by decide), List.filter_append, kept,
        List.filter_cons_of_pos (by decide)]
      rfl
  | none =>
      rw [Option.map_none, marked, List.append_nil, cleanedEnd]
      rcases List.eq_nil_or_concat query with rfl | ⟨body, last, rfl⟩
      · rfl
      · rw [List.concat_eq_append] at visible kept ⊢
        rw [trim_end_stop body [] last (visible last (by simp))]
        exact kept

theorem cleaned_start_subset (text : List Char) : cleanedStart text ⊆ text := fun _ member =>
  List.dropWhile_subset _ (List.mem_filter.mp member).1

theorem cleaned_subset (text : List Char) : cleaned text ⊆ text := by
  intro c member
  have trimmed := (List.mem_filter.mp member).1
  have front := List.mem_reverse.mp (List.dropWhile_subset _ (List.mem_reverse.mp trimmed))
  exact List.dropWhile_subset _ front

-- A query is left as it is, and what is blank is taken from the text before it and the fragment behind it.
theorem cleaned_tail (front : List Char) (query fragment : Option (List Char))
    (visible : ∀ c ∈ query.getD [], isBlank c = false) :
    ∃ start ⊆ front, (endsVisibly front → cleaned front = start) ∧
      cleaned (front ++ tail query fragment) = start ++ tail query (fragment.map cleanedEnd) := by
  cases query with
  | some query =>
      refine ⟨cleanedStart front, cleaned_start_subset front, cleaned_visible_end front, ?_⟩
      rw [tail, marked, List.cons_append, cleaned_mark front _ '?' (by decide) (by decide),
        cleaned_end_visible query fragment visible]
      rfl
  | none =>
      cases fragment with
      | some fragment =>
          refine ⟨cleanedStart front, cleaned_start_subset front, cleaned_visible_end front, ?_⟩
          exact cleaned_mark front fragment '#' (by decide) (by decide)
      | none =>
          refine ⟨cleaned front, cleaned_subset front, fun _ => rfl, ?_⟩
          have nothing : tail none none = [] := rfl
          rw [Option.map_none, nothing, List.append_nil, List.append_nil]

theorem split_scheme_tail (front : List Char) (query fragment : Option (List Char)) :
    splitScheme (front ++ tail query fragment) =
      (splitScheme front).map fun (scheme, rest) => (scheme, rest ++ tail query fragment) := by
  have stops := tail_head query fragment isSchemeChar (by decide) (by decide)
  cases front with
  | nil =>
      have unread := tail_head query fragment isLetter (by decide) (by decide)
      rw [List.nil_append]
      cases behind : tail query fragment with
      | nil => rfl
      | cons mark back =>
          rw [behind] at unread
          exact if_neg (by simp [unread mark rfl])
  | cons first more =>
      rw [List.cons_append, splitScheme, splitScheme, ← List.cons_append, drop_while_tail _ _ _ stops,
        take_while_tail _ _ _ stops]
      by_cases letter : isLetter first
      · rw [if_pos letter, if_pos letter]
        have colon := tail_head query fragment (· == ':') (by decide) (by decide)
        cases (first :: more).dropWhile isSchemeChar with
        | nil =>
            rw [List.nil_append]
            split
            · rename_i back same
              have impossible := colon ':' (by rw [same]; rfl)
              cases impossible
            · rfl
        | cons mark rest =>
            by_cases colon : mark = ':'
            · subst colon
              rfl
            · rw [List.cons_append]
              split
              · rename_i same
                exact absurd (List.cons.inj same).1 colon
              · split
                · rename_i same
                  exact absurd (List.cons.inj same).1 colon
                · rfl
      · rw [if_neg letter, if_neg letter]
        rfl

theorem split_scheme_subset (text scheme rest : List Char) (read : splitScheme text = some (scheme, rest)) :
    rest ⊆ text := by
  cases text with
  | nil => cases read
  | cons first more =>
      rw [splitScheme] at read
      split at read
      · split at read
        · rename_i behind split
          cases read
          have inside := List.dropWhile_subset (p := isSchemeChar) (l := first :: more)
          rw [split] at inside
          exact fun c member => inside (List.mem_cons_of_mem _ member)
        · cases read
      · cases read

-- Whether a URL is one of the web.
def IsWeb (url : Url) : Prop := url.scheme = "http".toList ∨ url.scheme = "https".toList

theorem web_special (url : Url) (web : url.IsWeb) : isSpecial url.scheme = true ∧ isFile url.scheme = false := by
  rcases web with same | same
  · rw [same]
    decide
  · rw [same]
    decide

theorem parse_web (text : String) (base : Url) (parsed : parse text = .ok base)
    (web : base.IsWeb) :
    ∃ rest, splitScheme (cleaned text.toList) = some (base.scheme, rest) ∧
      readAuthority base.scheme (rest.dropWhile (isSlash true)) = .ok base := by
  obtain ⟨special, hosted⟩ := web_special base web
  unfold parse at parsed
  cases split : splitScheme (cleaned text.toList) with
  | none =>
      rw [split] at parsed
      cases parsed
  | some parts =>
      obtain ⟨scheme, rest⟩ := parts
      rw [split] at parsed
      dsimp only at parsed
      by_cases file : isFile scheme
      · rw [if_pos file] at parsed
        rw [read_file_scheme scheme rest base parsed, file] at hosted
        cases hosted
      rw [if_neg file] at parsed
      by_cases known : isSpecial scheme
      · rw [if_pos known] at parsed
        have same := read_authority_scheme scheme _ base parsed
        exact ⟨rest, by rw [same], same.symm ▸ parsed⟩
      · rw [if_neg known] at parsed
        rw [read_plain_scheme scheme rest base parsed] at special
        exact absurd special known

-- A query and a fragment behind a URL without either.
theorem parse_tail (front : List Char) (query fragment : Option (List Char)) (base : Url)
    (parsed : parse (String.ofList front) = .ok base) (web : base.IsWeb) (unmarked : Unmarked front)
    (ends : endsVisibly front) (visible : ∀ c ∈ query.getD [], isBlank c = false ∧ c ≠ '#') :
    parse (String.ofList (front ++ tail query fragment)) = .ok (base.withTail query (fragment.map cleanedEnd)) := by
  obtain ⟨rest, split, read⟩ := parse_web _ base parsed web
  obtain ⟨special, hosted⟩ := web_special base web
  obtain ⟨start, inside, start_cleaned, clean⟩ :=
    cleaned_tail front query fragment fun c member => (visible c member).1
  rw [String.toList_ofList, start_cleaned ends] at split
  have path := unmarked_subset (rest.dropWhile (isSlash true)) front unmarked fun c member =>
    inside (split_scheme_subset _ _ rest split (List.dropWhile_subset _ member))
  unfold parse
  rw [String.toList_ofList, clean, split_scheme_tail, split]
  dsimp only [Option.map]
  rw [if_neg (by simp [hosted]), if_pos special,
    drop_while_tail _ rest _ (tail_head query _ (isSlash true) (by decide) (by decide))]
  exact read_authority_tail base.scheme _ query _ base special path (fun member => (visible '#' member).2 rfl) read

-- The query that is read stands between the first question mark and the first hash sign.
theorem parsed_query (front : List Char) (query fragment : Option (List Char)) (url : Url)
    (parsed : parse (String.ofList (front ++ tail query fragment)) = .ok url) (web : url.IsWeb)
    (unmarked : Unmarked front) (visible : ∀ c ∈ query.getD [], isBlank c = false ∧ c ≠ '#') :
    url.query = query.map (percentEncode .specialQuery) := by
  obtain ⟨rest, split, read⟩ := parse_web _ url parsed web
  obtain ⟨special, _⟩ := web_special url web
  obtain ⟨start, inside, _, clean⟩ := cleaned_tail front query fragment fun c member => (visible c member).1
  rw [String.toList_ofList, clean, split_scheme_tail] at split
  obtain ⟨⟨scheme, back⟩, front_split, same⟩ := Option.map_eq_some_iff.mp split
  cases same
  obtain ⟨user, host, port, parts⟩ := read_authority_parts _ _ url read
  rw [drop_while_tail _ back _ (tail_head query _ (isSlash true) (by decide) (by decide)),
    drop_while_tail _ _ _ (authority_stops url.scheme query _)] at parts
  have path_inside : (back.dropWhile (isSlash true)).dropWhile (!endsAuthority (isSpecial url.scheme) ·) ⊆ front := by
    intro c member
    have behind := List.dropWhile_subset _ (List.dropWhile_subset _ member)
    exact inside (split_scheme_subset _ _ back front_split behind)
  have path := unmarked_subset _ front unmarked path_inside
  have query_read := congrArg Url.query parts
  rw [withPath, split_path_tail _ query _ path fun member => (visible '#' member).2 rfl, special] at query_read
  exact query_read

end ChainExplorer.Url
