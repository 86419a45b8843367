import ChainExplorer.Proofs.Json.Words

set_option autoImplicit false

namespace ChainExplorer.Json

section Members

variable (members : List (String × Value))

-- The members are in the order of their names, no name twice.
def Ordered : Prop := members.Pairwise fun member later => member.1 < later.1

theorem insert_member_perm (name : String) (value : Value) (known : List (String × Value))
    (new : ∀ member ∈ known, member.1 ≠ name) : (insertMember name value known).Perm ((name, value) :: known) := by
  induction known with
  | nil => exact .refl _
  | cons member rest ih =>
      obtain ⟨here, there⟩ := List.forall_mem_cons.mp new
      rw [insertMember, if_neg here.symm]
      split
      · exact .refl _
      · exact ((ih there).cons member).trans (.swap _ _ _)

theorem insert_member_ordered (name : String) (value : Value) (known : List (String × Value)) (ordered : Ordered known)
    (new : ∀ member ∈ known, member.1 ≠ name) : Ordered (insertMember name value known) := by
  induction known with
  | nil => exact List.pairwise_singleton _ _
  | cons member rest ih =>
      obtain ⟨here, there⟩ := List.forall_mem_cons.mp new
      obtain ⟨first, later⟩ := List.pairwise_cons.mp ordered
      rw [insertMember, if_neg here.symm]
      by_cases before : name < member.1
      · rw [if_pos before]
        refine List.pairwise_cons.mpr ⟨?_, ordered⟩
        exact List.forall_mem_cons.mpr ⟨before, fun other known => String.lt_trans before (first other known)⟩
      · rw [if_neg before]
        refine List.pairwise_cons.mpr ⟨?_, ih later there⟩
        intro other placed
        rcases List.mem_cons.mp ((insert_member_perm name value rest there).mem_iff.mp placed) with rfl | known
        · by_contra unordered
          exact here (String.le_antisymm (String.not_lt.mp before) (String.not_lt.mp unordered))
        · exact first other known

-- Inserting members of different names, one after another, puts them in order.
theorem insert_members (listed known : List (String × Value)) (ordered : Ordered known)
    (distinct : ((known ++ listed).map Prod.fst).Nodup) :
    Ordered (listed.foldl (fun known member => insertMember member.1 member.2 known) known) ∧
      (listed.foldl (fun known member => insertMember member.1 member.2 known) known).Perm (known ++ listed) := by
  induction listed generalizing known with
  | nil => exact ⟨ordered, by rw [List.append_nil]; exact .refl _⟩
  | cons member rest ih =>
      have moved : ((member :: known) ++ rest).Perm (known ++ member :: rest) := List.perm_middle.symm
      have apart := (moved.map Prod.fst).nodup_iff.mpr distinct
      have new : ∀ other ∈ known, other.1 ≠ member.1 := by
        rintro other here same
        refine (List.nodup_cons.mp apart).1 ?_
        rw [← same]
        exact List.mem_map_of_mem (List.mem_append_left rest here)
      have placed := insert_member_perm member.1 member.2 known new
      obtain ⟨sorted, all⟩ := ih (insertMember member.1 member.2 known)
        (insert_member_ordered member.1 member.2 known ordered new)
        (((placed.append_right rest).map Prod.fst).nodup_iff.mpr apart)
      exact ⟨sorted, (all.trans (placed.append_right rest)).trans moved⟩

theorem ordered_distinct (ordered : Ordered members) : (members.map Prod.fst).Nodup := by
  rw [List.Nodup, List.pairwise_map]
  refine ordered.imp fun {member later} before same => ?_
  rw [same] at before
  exact String.lt_irrefl _ before

theorem members_restored (listed : List (String × Value)) (ordered : Ordered members) (same : listed.Perm members) :
    listed.foldl (fun known member => insertMember member.1 member.2 known) [] = members := by
  have distinct := (same.map Prod.fst).nodup_iff.mpr (ordered_distinct members ordered)
  obtain ⟨sorted, all⟩ := insert_members listed [] List.Pairwise.nil distinct
  refine List.Perm.eq_of_pairwise ?_ sorted ordered (all.trans same)
  exact fun _ _ _ _ before after => absurd after (String.lt_asymm before)

end Members

section Signs

-- What a value begins with tells what it is.
variable (fuel depth : Nat) (rest : List Char)

theorem read_string : readValue (fuel + 1) depth ('"' :: rest) = (do
    let (text, rest) ← string rest
    .ok (.string text, rest)) := rfl

theorem read_negative : readValue (fuel + 1) depth ('-' :: rest) = (do
    let (value, rest) ← number true rest
    .ok (.number value, rest)) := rfl

theorem read_digit (c : Char) (digit : isDigit c) : readValue (fuel + 1) depth (c :: rest) = (do
    let (value, rest) ← number false (c :: rest)
    .ok (.number value, rest)) := by
  have apart (other : Char) (sign : isDigit other = false) : c ≠ other := digit_apart c other digit sign
  simp [readValue, skip_blanks_stop c rest (digit_visible c digit), digit, apart 'n' rfl, apart 't' rfl, apart 'f' rfl,
    apart '-' rfl, apart '"' rfl, apart '[' rfl, apart '\x7b' rfl]

theorem read_list : readValue (fuel + 1) (depth + 1) ('[' :: rest) = (do
    let (items, rest) ← readItems fuel depth (← firstItem rest)
    .ok (.array items, rest)) := rfl

theorem read_object : readValue (fuel + 1) (depth + 1) ('\x7b' :: rest) = (do
    let (members, rest) ← readMembers fuel depth (← firstMember rest)
    .ok (.object (members.foldl (fun known member => insertMember member.1 member.2 known) []), rest)) := rfl

end Signs

theorem scalar_read (depth fuel : Nat) (value : Value) (text rest : List Char) (stands : SpellsScalar value text)
    (plain : value.Plain depth) (ends : Ends rest) :
    readValue (fuel + 1) depth (text ++ rest) = .ok (value, rest) := by
  cases stands with
  | integer value _ spelled =>
      obtain ⟨digits, numeral, size, rfl⟩ := spelled
      have read (negative : Bool) := numeral_read negative digits rest numeral ends
      rw [size] at read
      cases plain with
      | integer _ _ above below =>
          unfold Number.signedLimit at *
          unfold Number.wordLimit at *
          by_cases negative : value < 0
          · have whole : -(value.natAbs : Int) = value := by omega
            have number := read true (by omega) (by omega)
            rw [if_pos rfl, whole] at number
            rw [if_pos negative, List.singleton_append, List.cons_append, read_negative, number]
            rfl
          · have whole : (value.natAbs : Int) = value := by omega
            have number := read false (by omega) (by simp)
            obtain ⟨d, more, rfl, digit, _⟩ := digits_head digits numeral.1
            rw [if_neg Bool.false_ne_true, whole] at number
            rw [if_neg negative, List.nil_append, List.cons_append, read_digit _ _ _ d digit, ← List.cons_append, number]
            rfl
  | string value _ spelled =>
      obtain ⟨units, each, rfl⟩ := spelled
      have read := string_read value (units.flatten ++ ['"']) rest ⟨units, each, rfl⟩
      rw [List.cons_append, read_string, read]
      rfl
  | _ => rfl

theorem read_skipped (fuel depth : Nat) (text : List Char) :
    readValue (fuel + 1) depth (skipBlanks text) = readValue (fuel + 1) depth text := by
  unfold readValue
  rw [skip_blanks_twice]

theorem read_blanks (fuel depth : Nat) (blanks text : List Char) (blank : Blanks blanks) :
    readValue (fuel + 1) depth (blanks ++ text) = readValue (fuel + 1) depth text := by
  unfold readValue
  rw [skip_blanks_append blanks text blank]

section Separators

variable (left text rest : List Char)

theorem first_item_read (begins : Begins text) : firstItem text = .ok (.more (skipBlanks text)) := by
  obtain ⟨c, more, start, within⟩ := begins
  simp [firstItem, start, within]

theorem next_item_read (begins : Begins text) (comma : skipBlanks left = ',' :: text) :
    nextItem left = .ok (.more (skipBlanks text)) := by
  obtain ⟨c, more, start, within⟩ := begins
  simp [nextItem, comma, start, within]

theorem first_item_end (closed : skipBlanks left = ']' :: rest) : firstItem left = .ok (.done rest) := by
  simp [firstItem, closed]

theorem next_item_end (closed : skipBlanks left = ']' :: rest) : nextItem left = .ok (.done rest) := by
  simp [nextItem, closed]

theorem first_member_read (named : skipBlanks text = '"' :: rest) : firstMember text = .ok (.more rest) := by
  simp [firstMember, named]

theorem next_member_read (comma : skipBlanks left = ',' :: text) (named : skipBlanks text = '"' :: rest) :
    nextMember left = .ok (.more rest) := by
  simp [nextMember, comma, named]

theorem first_member_end (closed : skipBlanks left = '\x7d' :: rest) : firstMember left = .ok (.done rest) := by
  simp [firstMember, closed]

theorem next_member_end (closed : skipBlanks left = '\x7d' :: rest) : nextMember left = .ok (.done rest) := by
  simp [nextMember, closed]

end Separators

-- What is read of a phrase. A value leaves what follows it, an element leaves blanks before that.
def Read : Phrase Value String → List Char → Prop
  | .value value, text => ∀ depth fuel rest, value.Plain depth → 2 * text.length ≤ fuel + 1 → Ends rest →
      readValue fuel depth (text ++ rest) = .ok (value, rest)
  | .element value, text => ∀ depth fuel rest, value.Plain depth → 2 * text.length ≤ fuel + 1 → Ends rest →
      ∃ left, readValue fuel depth (text ++ rest) = .ok (value, left) ∧ skipBlanks left = skipBlanks rest
  | .items values, text => ∀ depth fuel rest, (∀ value ∈ values, value.Plain depth) → 2 * text.length ≤ fuel →
      readItems fuel depth (.more (skipBlanks (text ++ ']' :: rest))) = .ok (values, rest)
  | .member name value, text => ∀ depth fuel rest, value.Plain depth → 2 * text.length ≤ fuel + 1 → Ends rest →
      ∃ start named valued left, skipBlanks (text ++ rest) = '"' :: start ∧ string start = .ok (name, named) ∧
        colon named = .ok valued ∧ readValue fuel depth valued = .ok (value, left) ∧ skipBlanks left = skipBlanks rest
  | .members listed, text => ∀ depth fuel rest, (∀ member ∈ listed, member.2.Plain depth) → 2 * text.length ≤ fuel →
      ∃ start, skipBlanks (text ++ '\x7d' :: rest) = '"' :: start ∧
        readMembers fuel depth (.more start) = .ok (listed, rest)

theorem no_items_read (blanks : List Char) (empty : Blanks blanks) :
    Read (.value (.array [])) ('[' :: (blanks ++ [']'])) := by
  intro depth fuel rest plain lasts _
  cases plain with
  | array levels _ _ =>
      obtain ⟨left, rfl⟩ : ∃ left, fuel = left + 2 := ⟨fuel - 2, by simp at lasts; omega⟩
      have closed := skip_blanks_before blanks rest ']' empty rfl
      rw [List.cons_append, read_list, first_item_end _ _ closed]
      rfl

theorem list_read (values : List Value) (text : List Char) (begins : Begins text) (items : Read (.items values) text) :
    Read (.value (.array values)) ('[' :: (text ++ [']'])) := by
  intro depth fuel rest plain lasts _
  cases plain with
  | array levels _ each =>
      obtain ⟨left, rfl⟩ : ∃ left, fuel = left + 1 := ⟨fuel - 1, by simp at lasts; omega⟩
      have read := items levels left rest each (by simp at lasts; omega)
      rw [List.cons_append, List.append_assoc, List.singleton_append, read_list,
        first_item_read _ (begins_append text (']' :: rest) begins)]
      dsimp only [bind, Except.bind]
      rw [read]

theorem no_members_read (blanks : List Char) (empty : Blanks blanks) :
    Read (.value (.object [])) ('\x7b' :: (blanks ++ ['\x7d'])) := by
  intro depth fuel rest plain lasts _
  cases plain with
  | object levels _ _ _ =>
      obtain ⟨left, rfl⟩ : ∃ left, fuel = left + 2 := ⟨fuel - 2, by simp at lasts; omega⟩
      have closed := skip_blanks_before blanks rest '\x7d' empty rfl
      rw [List.cons_append, read_object, first_member_end _ _ closed]
      rfl

theorem object_read (members listed : List (String × Value)) (text : List Char) (same : listed.Perm members)
    (read : Read (.members listed) text) : Read (.value (.object members)) ('\x7b' :: (text ++ ['\x7d'])) := by
  intro depth fuel rest plain lasts _
  cases plain with
  | object levels _ ordered each =>
      obtain ⟨left, rfl⟩ : ∃ left, fuel = left + 1 := ⟨fuel - 1, by simp at lasts; omega⟩
      obtain ⟨start, named, read⟩ := read levels left rest (fun member known => each member (same.mem_iff.mp known))
        (by simp at lasts; omega)
      rw [List.cons_append, List.append_assoc, List.singleton_append, read_object, first_member_read _ _ named]
      dsimp only [bind, Except.bind]
      rw [read, ← members_restored members listed ordered same]

theorem element_read (value : Value) (before text after : List Char) (leading : Blanks before) (trailing : Blanks after)
    (begins : Begins text) (read : Read (.value value) text) : Read (.element value) (before ++ text ++ after) := by
  intro depth fuel rest plain lasts ends
  have some := begins_some text begins
  simp only [List.length_append] at lasts
  obtain ⟨left, rfl⟩ : ∃ left, fuel = left + 1 := ⟨fuel - 1, by omega⟩
  refine ⟨after ++ rest, ?_, skip_blanks_append after rest trailing⟩
  rw [List.append_assoc, List.append_assoc, read_blanks _ _ before _ leading]
  exact read depth (left + 1) (after ++ rest) plain (by omega) (ends_append after rest trailing ends)

theorem items_read (fuel depth : Nat) (text left : List Char) (value : Value) (next : Next) (values : List Value)
    (rest : List Char) (read : readValue (fuel + 1) depth text = .ok (value, left)) (onward : nextItem left = .ok next)
    (others : readItems (fuel + 1) depth next = .ok (values, rest)) :
    readItems (fuel + 2) depth (.more (skipBlanks text)) = .ok (value :: values, rest) := by
  rw [readItems, read_skipped, read]
  dsimp only [bind, Except.bind]
  rw [onward]
  dsimp only
  rw [others]

theorem last_item_read (value : Value) (text : List Char) (begins : Begins text) (read : Read (.element value) text) :
    Read (.items [value]) text := by
  intro depth fuel rest plain lasts
  have some := begins_some text begins
  obtain ⟨left, rfl⟩ : ∃ left, fuel = left + 2 := ⟨fuel - 2, by omega⟩
  obtain ⟨after, read, blank⟩ := read depth (left + 1) (']' :: rest) (plain value List.mem_cons_self) (by omega)
    (ends_separator _ _ (by decide))
  exact items_read left depth _ after value (.done rest) [] rest read (next_item_end _ _ blank) rfl

theorem item_read (value : Value) (values : List Value) (text more : List Char) (begins : Begins text)
    (onward : Begins more) (read : Read (.element value) text) (items : Read (.items values) more) :
    Read (.items (value :: values)) (text ++ ',' :: more) := by
  intro depth fuel rest plain lasts
  have some := begins_some text begins
  obtain ⟨first, later⟩ := List.forall_mem_cons.mp plain
  simp only [List.length_append, List.length_cons] at lasts
  obtain ⟨left, rfl⟩ : ∃ left, fuel = left + 2 := ⟨fuel - 2, by omega⟩
  obtain ⟨after, read, blank⟩ := read depth (left + 1) (',' :: (more ++ ']' :: rest)) first (by omega)
    (ends_separator _ _ (by decide))
  have others := items depth (left + 1) rest later (by omega)
  rw [List.append_assoc, List.cons_append]
  exact items_read left depth _ after value _ values rest read
    (next_item_read after _ (begins_append more _ onward) blank) others

theorem member_read (name : String) (value : Value) (before quoted between text : List Char) (leading : Blanks before)
    (named : SpellsString name quoted) (trailing : Blanks between) (read : Read (.element value) text) :
    Read (.member name value) (before ++ quoted ++ between ++ ':' :: text) := by
  intro depth fuel rest plain lasts ends
  obtain ⟨units, each, rfl⟩ := named
  simp only [List.length_append, List.length_cons] at lasts
  obtain ⟨left, read, blank⟩ := read depth fuel rest plain (by omega) ends
  exact ⟨_, _, _, left, member_starts before _ between text rest leading, string_read name _ _ ⟨units, each, rfl⟩,
    colon_read between _ trailing, read, blank⟩

theorem named_read (fuel depth : Nat) (start named valued left : List Char) (name : String) (value : Value)
    (next : Next) (listed : List (String × Value)) (rest : List Char) (first : string start = .ok (name, named))
    (second : colon named = .ok valued) (read : readValue fuel depth valued = .ok (value, left))
    (onward : nextMember left = .ok next) (others : readMembers fuel depth next = .ok (listed, rest)) :
    readMembers (fuel + 1) depth (.more start) = .ok ((name, value) :: listed, rest) := by
  rw [readMembers, first]
  dsimp only [bind, Except.bind]
  rw [second]
  dsimp only
  rw [read]
  dsimp only
  rw [onward]
  dsimp only
  rw [others]

theorem last_member_read (name : String) (value : Value) (text : List Char) (some : 0 < text.length)
    (read : Read (.member name value) text) : Read (.members [(name, value)]) text := by
  intro depth fuel rest plain lasts
  obtain ⟨left, rfl⟩ : ∃ left, fuel = left + 2 := ⟨fuel - 2, by omega⟩
  obtain ⟨start, named, valued, after, begins, first, second, read, blank⟩ :=
    read depth (left + 1) ('\x7d' :: rest) (plain _ List.mem_cons_self) (by omega) (ends_separator _ _ (by decide))
  exact ⟨start, begins, named_read _ depth start named valued after name value (.done rest) [] rest first second read
    (next_member_end _ _ blank) rfl⟩

theorem members_read (name : String) (value : Value) (listed : List (String × Value)) (text more : List Char)
    (read : Read (.member name value) text) (members : Read (.members listed) more) :
    Read (.members ((name, value) :: listed)) (text ++ ',' :: more) := by
  intro depth fuel rest plain lasts
  obtain ⟨here, later⟩ := List.forall_mem_cons.mp plain
  simp only [List.length_append, List.length_cons] at lasts
  obtain ⟨left, rfl⟩ : ∃ left, fuel = left + 1 := ⟨fuel - 1, by omega⟩
  obtain ⟨start, named, valued, after, begins, first, second, read, blank⟩ :=
    read depth left (',' :: (more ++ '\x7d' :: rest)) here (by omega) (ends_separator _ _ (by decide))
  obtain ⟨next, comes, others⟩ := members depth left rest later (by omega)
  rw [List.append_assoc, List.cons_append]
  exact ⟨start, begins, named_read _ depth start named valued after name value (.more next) listed rest first second read
    (next_member_read _ _ _ blank comes) others⟩

theorem spelled_read (phrase : Phrase Value String) (text : List Char) (spelled : Grammar.exact.Spells phrase text) :
    Read phrase text := by
  have begin := exact_scalar_begins
  induction spelled with
  | scalar value text stands =>
      intro depth fuel rest plain lasts ends
      have some := begins_some text (begin value text stands)
      obtain ⟨left, rfl⟩ : ∃ left, fuel = left + 1 := ⟨fuel - 1, by omega⟩
      exact scalar_read depth left value text rest stands plain ends
  | noItems value blanks stands empty =>
      obtain rfl : value = .array [] := stands
      exact no_items_read blanks empty
  | list value values text stands items read =>
      obtain rfl : value = .array values := stands
      exact list_read values text (items_begin _ begin values text items) read
  | noMembers value blanks stands empty =>
      obtain ⟨members, none, rfl⟩ := stands
      rw [List.nil_perm.mp none]
      exact no_members_read blanks empty
  | object value listed text stands _ read =>
      obtain ⟨members, same, rfl⟩ := stands
      exact object_read members listed text same read
  | element value before text after leading spelled trailing read =>
      exact element_read value before text after leading trailing (value_begins _ begin value text spelled) read
  | lastItem value text spelled read =>
      exact last_item_read value text (element_begins _ begin value text spelled) read
  | item value values text more spelled items read readMore =>
      exact item_read value values text more (element_begins _ begin value text spelled)
        (items_begin _ begin values more items) read readMore
  | member name value before quoted between text leading named trailing _ read =>
      exact member_read name value before quoted between text leading named trailing read
  | lastMember name value text spelled read =>
      exact last_member_read name value text (member_some _ name value text spelled) read
  | members name value listed text more _ _ read readMore =>
      exact members_read name value listed text more read readMore

end ChainExplorer.Json
