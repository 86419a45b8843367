import ChainExplorer.Proofs.Json.Words

set_option autoImplicit false

namespace ChainExplorer.Json

section Signs

variable (fuel : Nat) (text rest : List Char)

theorem skip_skipped : skipValue (fuel + 1) (skipBlanks text) = skipValue (fuel + 1) text := by
  unfold skipValue
  rw [skip_blanks_twice]

theorem skip_after_blanks (blanks : List Char) (blank : Blanks blanks) :
    skipValue (fuel + 1) (blanks ++ text) = skipValue (fuel + 1) text := by
  unfold skipValue
  rw [skip_blanks_append blanks text blank]

theorem skip_negative : skipValue (fuel + 1) ('-' :: rest) = skipNumber rest := rfl

theorem skip_digit (c : Char) (digit : isDigit c) : skipValue (fuel + 1) (c :: rest) = skipNumber (c :: rest) := by
  have apart (other : Char) (sign : isDigit other = false) : c ≠ other := digit_apart c other digit sign
  simp [skipValue, skip_blanks_stop c rest (digit_visible c digit), digit, apart 'n' rfl, apart 't' rfl, apart 'f' rfl,
    apart '-' rfl, apart '"' rfl, apart '[' rfl, apart '\x7b' rfl]

theorem skip_quoted : skipValue (fuel + 1) ('"' :: rest) = skipString (rest.length + 1) rest := rfl

theorem skip_open_list : skipValue (fuel + 1) ('[' :: text) =
    (match skipBlanks text with
      | [] => failAt .unfinishedList []
      | ']' :: rest => .ok rest
      | rest => do skipItems fuel (← skipValue fuel rest)) := rfl

theorem skip_open_object : skipValue (fuel + 1) ('\x7b' :: text) =
    (match skipBlanks text with
      | [] => failAt .unfinishedObject []
      | '\x7d' :: rest => .ok rest
      | rest => do skipMembers fuel (← skipValue fuel (← skipName rest))) := rfl

theorem skip_name : skipName ('"' :: rest) = (do colon (← skipString (rest.length + 1) rest)) := rfl

theorem skip_name_skipped : skipName (skipBlanks text) = skipName text := by
  unfold skipName
  rw [skip_blanks_twice]

theorem skip_no_items (closed : skipBlanks text = ']' :: rest) : skipValue (fuel + 1) ('[' :: text) = .ok rest := by
  rw [skip_open_list, closed]
  rfl

theorem skip_no_members (closed : skipBlanks text = '\x7d' :: rest) :
    skipValue (fuel + 1) ('\x7b' :: text) = .ok rest := by
  rw [skip_open_object, closed]
  rfl

end Signs

section Steps

variable (fuel : Nat) (text left valued more rest : List Char)

theorem list_skipped_by (begins : Begins text) (first : skipValue (fuel + 1) text = .ok left)
    (others : skipItems (fuel + 1) left = .ok rest) : skipValue (fuel + 2) ('[' :: text) = .ok rest := by
  obtain ⟨c, more, start, within⟩ := begins
  rw [← skip_skipped, start] at first
  rw [skip_open_list, start]
  simp [within, first, others, bind, Except.bind]

theorem items_end (closed : skipBlanks left = ']' :: rest) : skipItems (fuel + 1) left = .ok rest := by
  rw [skipItems, closed]
  rfl

theorem items_onward (comma : skipBlanks left = ',' :: text) (first : skipValue fuel text = .ok more)
    (others : skipItems fuel more = .ok rest) : skipItems (fuel + 1) left = .ok rest := by
  rw [skipItems, comma]
  simp [first, others, bind, Except.bind]

theorem object_skipped_by (start : List Char) (named : skipBlanks text = '"' :: start)
    (name : skipName ('"' :: start) = .ok valued) (first : skipValue fuel valued = .ok left)
    (others : skipMembers fuel left = .ok rest) : skipValue (fuel + 1) ('\x7b' :: text) = .ok rest := by
  rw [skip_open_object, named]
  simp [name, first, others, bind, Except.bind]

theorem members_end (closed : skipBlanks left = '\x7d' :: rest) : skipMembers (fuel + 1) left = .ok rest := by
  rw [skipMembers, closed]
  rfl

theorem members_onward (comma : skipBlanks left = ',' :: text) (name : skipName text = .ok valued)
    (first : skipValue fuel valued = .ok more) (others : skipMembers fuel more = .ok rest) :
    skipMembers (fuel + 1) left = .ok rest := by
  rw [skipMembers, comma]
  simp [name, first, others, bind, Except.bind]

end Steps

theorem scalar_skipped (fuel : Nat) (text rest : List Char) (stands : ScalarText text) (ends : Ends rest) :
    skipValue (fuel + 1) (text ++ rest) = .ok rest := by
  cases stands with
  | number _ spelled =>
      obtain ⟨sign, digits, fraction, exponent, signed, numeral, first, second, rfl⟩ := spelled
      have skipped := number_skipped digits fraction exponent rest numeral first second ends
      simp only [List.mem_cons, List.not_mem_nil, or_false] at signed
      rcases signed with rfl | rfl
      · obtain ⟨d, more, rfl, digit, _⟩ := digits_head digits numeral.1
        exact (skip_digit fuel _ d digit).trans skipped
      · exact (skip_negative fuel _).trans skipped
  | string _ spelled =>
      obtain ⟨units, each, rfl⟩ := spelled
      exact (skip_quoted fuel _).trans (string_skipped _ rest ⟨units, each, rfl⟩)
  | _ => rfl

-- What is passed over of a phrase, as in reading it.
def Skipped : Phrase Unit Unit → List Char → Prop
  | .value _, text => ∀ fuel rest, 2 * text.length ≤ fuel + 1 → Ends rest → skipValue fuel (text ++ rest) = .ok rest
  | .element _, text => ∀ fuel rest, 2 * text.length ≤ fuel + 1 → Ends rest →
      ∃ left, skipValue fuel (text ++ rest) = .ok left ∧ skipBlanks left = skipBlanks rest
  | .items _, text => ∀ fuel rest, 2 * text.length ≤ fuel + 1 →
      ∃ left, skipValue fuel (text ++ ']' :: rest) = .ok left ∧ skipItems fuel left = .ok rest
  | .member _ _, text => ∀ fuel rest, 2 * text.length ≤ fuel + 1 → Ends rest →
      ∃ start valued left, skipBlanks (text ++ rest) = '"' :: start ∧ skipName ('"' :: start) = .ok valued ∧
        skipValue fuel valued = .ok left ∧ skipBlanks left = skipBlanks rest
  | .members _, text => ∀ fuel rest, 2 * text.length ≤ fuel + 1 →
      ∃ start valued left, skipBlanks (text ++ '\x7d' :: rest) = '"' :: start ∧ skipName ('"' :: start) = .ok valued ∧
        skipValue fuel valued = .ok left ∧ skipMembers fuel left = .ok rest

theorem no_items_skipped (blanks : List Char) (empty : Blanks blanks) :
    Skipped (.value ()) ('[' :: (blanks ++ [']'])) := by
  intro fuel rest lasts _
  obtain ⟨left, rfl⟩ : ∃ left, fuel = left + 1 := ⟨fuel - 1, by simp at lasts; omega⟩
  exact skip_no_items left _ rest (skip_blanks_before blanks rest _ empty rfl)

theorem list_skipped (values : List Unit) (text : List Char) (begins : Begins text)
    (items : Skipped (.items values) text) : Skipped (.value ()) ('[' :: (text ++ [']'])) := by
  intro fuel rest lasts _
  simp only [List.length_cons, List.length_append, List.length_nil] at lasts
  obtain ⟨left, rfl⟩ : ∃ left, fuel = left + 2 := ⟨fuel - 2, by omega⟩
  obtain ⟨after, first, others⟩ := items (left + 1) rest (by omega)
  rw [List.cons_append, List.append_assoc, List.singleton_append]
  exact list_skipped_by left _ after rest (begins_append text _ begins) first others

theorem no_members_skipped (blanks : List Char) (empty : Blanks blanks) :
    Skipped (.value ()) ('\x7b' :: (blanks ++ ['\x7d'])) := by
  intro fuel rest lasts _
  obtain ⟨left, rfl⟩ : ∃ left, fuel = left + 1 := ⟨fuel - 1, by simp at lasts; omega⟩
  exact skip_no_members left _ rest (skip_blanks_before blanks rest _ empty rfl)

theorem object_skipped (listed : List (Unit × Unit)) (text : List Char) (members : Skipped (.members listed) text) :
    Skipped (.value ()) ('\x7b' :: (text ++ ['\x7d'])) := by
  intro fuel rest lasts _
  simp only [List.length_cons, List.length_append, List.length_nil] at lasts
  obtain ⟨left, rfl⟩ : ∃ left, fuel = left + 1 := ⟨fuel - 1, by omega⟩
  obtain ⟨start, valued, after, begins, name, first, others⟩ := members left rest (by omega)
  rw [List.cons_append, List.append_assoc, List.singleton_append]
  exact object_skipped_by left _ after valued rest start begins name first others

theorem element_skipped (before text after : List Char) (leading : Blanks before) (trailing : Blanks after)
    (begins : Begins text) (value : Skipped (.value ()) text) : Skipped (.element ()) (before ++ text ++ after) := by
  intro fuel rest lasts ends
  have some := begins_some text begins
  simp only [List.length_append] at lasts
  obtain ⟨left, rfl⟩ : ∃ left, fuel = left + 1 := ⟨fuel - 1, by omega⟩
  refine ⟨after ++ rest, ?_, skip_blanks_append after rest trailing⟩
  rw [List.append_assoc, List.append_assoc, skip_after_blanks _ _ before leading]
  exact value (left + 1) (after ++ rest) (by omega) (ends_append after rest trailing ends)

theorem last_item_skipped (text : List Char) (begins : Begins text) (element : Skipped (.element ()) text) :
    Skipped (.items [()]) text := by
  intro fuel rest lasts
  have some := begins_some text begins
  obtain ⟨left, rfl⟩ : ∃ left, fuel = left + 1 := ⟨fuel - 1, by omega⟩
  obtain ⟨after, first, blank⟩ := element (left + 1) (']' :: rest) lasts (ends_separator _ _ (by decide))
  exact ⟨after, first, items_end left after rest blank⟩

theorem item_skipped (values : List Unit) (text more : List Char) (element : Skipped (.element ()) text)
    (items : Skipped (.items values) more) : Skipped (.items (() :: values)) (text ++ ',' :: more) := by
  intro fuel rest lasts
  simp only [List.length_append, List.length_cons] at lasts
  obtain ⟨left, rfl⟩ : ∃ left, fuel = left + 1 := ⟨fuel - 1, by omega⟩
  obtain ⟨after, first, blank⟩ := element (left + 1) (',' :: (more ++ ']' :: rest)) (by omega)
    (ends_separator _ _ (by decide))
  obtain ⟨others, next, done⟩ := items left rest (by omega)
  rw [List.append_assoc, List.cons_append]
  exact ⟨after, first, items_onward left _ after others rest blank next done⟩

theorem member_skipped (before quoted between text : List Char) (leading : Blanks before) (named : StringText quoted)
    (trailing : Blanks between) (element : Skipped (.element ()) text) :
    Skipped (.member () ()) (before ++ quoted ++ between ++ ':' :: text) := by
  intro fuel rest lasts ends
  obtain ⟨units, each, rfl⟩ := named
  simp only [List.length_append, List.length_cons] at lasts
  obtain ⟨left, first, blank⟩ := element fuel rest (by omega) ends
  refine ⟨_, text ++ rest, left, member_starts before _ between text rest leading, ?_, first, blank⟩
  have skipped := string_skipped (units.flatten ++ ['"']) (between ++ ':' :: (text ++ rest)) ⟨units, each, rfl⟩
  rw [skip_name, skipped]
  exact colon_read between _ trailing

theorem last_member_skipped (text : List Char) (some : 0 < text.length) (member : Skipped (.member () ()) text) :
    Skipped (.members [((), ())]) text := by
  intro fuel rest lasts
  obtain ⟨left, rfl⟩ : ∃ left, fuel = left + 1 := ⟨fuel - 1, by omega⟩
  obtain ⟨start, valued, after, begins, name, first, blank⟩ :=
    member (left + 1) ('\x7d' :: rest) lasts (ends_separator _ _ (by decide))
  exact ⟨start, valued, after, begins, name, first, members_end left after rest blank⟩

theorem members_skipped (listed : List (Unit × Unit)) (text more : List Char) (member : Skipped (.member () ()) text)
    (members : Skipped (.members listed) more) : Skipped (.members (((), ()) :: listed)) (text ++ ',' :: more) := by
  intro fuel rest lasts
  simp only [List.length_append, List.length_cons] at lasts
  obtain ⟨left, rfl⟩ : ∃ left, fuel = left + 1 := ⟨fuel - 1, by omega⟩
  obtain ⟨start, valued, after, begins, name, first, blank⟩ :=
    member (left + 1) (',' :: (more ++ '\x7d' :: rest)) (by omega) (ends_separator _ _ (by decide))
  obtain ⟨next, there, others, comes, named, second, done⟩ := members left rest (by omega)
  have onward : skipName (more ++ '\x7d' :: rest) = .ok there := by rw [← skip_name_skipped, comes, named]
  rw [List.append_assoc, List.cons_append]
  exact ⟨start, valued, after, begins, name, first, members_onward left _ after there others rest blank onward second done⟩

theorem spelled_skipped (phrase : Phrase Unit Unit) (text : List Char) (spelled : Grammar.loose.Spells phrase text) :
    Skipped phrase text := by
  have begin := loose_scalar_begins
  induction spelled with
  | scalar value text stands =>
      intro fuel rest lasts ends
      have some := begins_some text (begin value text stands)
      obtain ⟨left, rfl⟩ : ∃ left, fuel = left + 1 := ⟨fuel - 1, by omega⟩
      exact scalar_skipped left text rest stands ends
  | noItems _ blanks _ empty => exact no_items_skipped blanks empty
  | list _ values text _ items skipped => exact list_skipped values text (items_begin _ begin values text items) skipped
  | noMembers _ blanks _ empty => exact no_members_skipped blanks empty
  | object _ listed text _ _ skipped => exact object_skipped listed text skipped
  | element value before text after leading spelled trailing skipped =>
      exact element_skipped before text after leading trailing (value_begins _ begin value text spelled) skipped
  | lastItem value text spelled skipped =>
      exact last_item_skipped text (element_begins _ begin value text spelled) skipped
  | item _ values text more _ _ skipped others => exact item_skipped values text more skipped others
  | member _ _ before quoted between text leading named trailing _ skipped =>
      exact member_skipped before quoted between text leading named trailing skipped
  | lastMember name value text spelled skipped =>
      exact last_member_skipped text (member_some _ name value text spelled) skipped
  | members _ _ listed text more _ _ skipped others => exact members_skipped listed text more skipped others

end ChainExplorer.Json
