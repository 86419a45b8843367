import ChainExplorer.Proofs.Screen.Redrawing
import Mathlib.Algebra.GroupWithZero.Nat

set_option autoImplicit false

namespace ChainExplorer

-- An item of joined lists lies in one of them, behind all of those before it.
theorem flat_map_at {α β : Type} (view : α → List β) (items : List α) (row : Nat) (value : β) :
    (items.flatMap view)[row]? = some value ↔
      ∃ place item offset, items[place]? = some item ∧ (view item)[offset]? = some value ∧
        row = ((items.take place).map fun item => (view item).length).sum + offset := by
  induction items generalizing row with
  | nil => simp
  | cons first rest ih =>
      rw [List.flatMap_cons]
      by_cases inside : row < (view first).length
      · rw [List.getElem?_append_left inside]
        constructor
        · intro found
          exact ⟨0, first, row, rfl, found, (Nat.zero_add row).symm⟩
        · rintro ⟨place, item, offset, there, found, rfl⟩
          cases place with
          | zero =>
              cases there
              simpa using found
          | succ place =>
              rw [List.take_succ_cons, List.map_cons, List.sum_cons] at inside
              omega
      · have behind := Nat.le_of_not_lt inside
        rw [List.getElem?_append_right behind, ih]
        constructor
        · rintro ⟨place, item, offset, there, found, same⟩
          refine ⟨place + 1, item, offset, there, found, ?_⟩
          rw [List.take_succ_cons, List.map_cons, List.sum_cons]
          omega
        · rintro ⟨place, item, offset, there, found, rfl⟩
          cases place with
          | zero =>
              cases there
              have bound := (List.getElem?_eq_some_iff.mp found).1
              exact absurd (by simpa using bound) inside
          | succ place =>
              refine ⟨place, item, offset, there, found, ?_⟩
              rw [List.take_succ_cons, List.map_cons, List.sum_cons]
              omega

def Container.rowCount (container : Container) : Nat := container.fields.length + 2

namespace Results

open Screen (Line)
open Screen.ResultsPane

def rowCount (results : Results) : Nat := (results.containers.map Container.rowCount).sum

-- The rows of the containers before a place.
def rowsAbove (results : Results) (place : Nat) : Nat :=
  ((results.containers.take place).map Container.rowCount).sum

def scrolledTo (results : Results) (scroll : Nat) : Results := { results with scroll }

inductive HasRow (results : Results) : Nat → Line → Prop where
  | title (place : Nat) (container : Container) (there : results.containers[place]? = some container) :
      HasRow results (results.rowsAbove place) [⟨container.title, .title⟩]
  | field (place index : Nat) (container : Container) (field : Field)
      (there : results.containers[place]? = some container) (listed : container.fields[index]? = some field) :
      HasRow results (results.rowsAbove place + (1 + index)) (fieldLine (labelWidth results) field)
  | blank (place : Nat) (container : Container) (there : results.containers[place]? = some container) :
      HasRow results (results.rowsAbove place + (1 + container.fields.length)) []

end Results

namespace Screen.ResultsPane

theorem container_lines_length (column : Nat) (container : Container) :
    (containerLines column container).length = container.rowCount := by
  simp [containerLines, Container.rowCount]

theorem container_lines_field (column index : Nat) (container : Container) (field : Field)
    (listed : container.fields[index]? = some field) :
    (containerLines column container)[1 + index]? = some (fieldLine column field) := by
  have inside := (List.getElem?_eq_some_iff.mp listed).1
  rw [containerLines, List.cons_append, Nat.add_comm, List.getElem?_cons_succ,
    List.getElem?_append_left (by rwa [List.length_map]), List.getElem?_map, listed]
  rfl

theorem container_lines_blank (column : Nat) (container : Container) :
    (containerLines column container)[1 + container.fields.length]? = some [] := by
  rw [containerLines, List.cons_append, Nat.add_comm, List.getElem?_cons_succ,
    ← List.length_map (fieldLine column)]
  exact List.getElem?_concat_length

-- The rows of a container are its title, its fields and a blank row, and there are no others.
theorem container_lines_at (column offset : Nat) (container : Container) (line : Line)
    (found : (containerLines column container)[offset]? = some line) :
    (offset = 0 ∧ line = [⟨container.title, .title⟩]) ∨
      (∃ index field, offset = 1 + index ∧ container.fields[index]? = some field ∧ line = fieldLine column field) ∨
      (offset = 1 + container.fields.length ∧ line = []) := by
  have bound := (List.getElem?_eq_some_iff.mp found).1
  rw [container_lines_length, Container.rowCount] at bound
  cases offset with
  | zero => exact .inl ⟨rfl, (Option.some.inj found).symm⟩
  | succ index =>
      rw [Nat.add_comm index 1] at found ⊢
      by_cases inside : index < container.fields.length
      · have listed := List.getElem?_eq_getElem inside
        rw [container_lines_field column index container _ listed] at found
        exact .inr (.inl ⟨index, _, rfl, listed, (Option.some.inj found).symm⟩)
      · have last : index = container.fields.length := by omega
        rw [last, container_lines_blank] at found
        exact .inr (.inr ⟨by rw [last], (Option.some.inj found).symm⟩)

theorem lines_length (results : Results) : (lines results).length = results.rowCount := by
  rw [lines, List.length_flatMap]
  exact congrArg List.sum (List.map_congr_left fun container _ => container_lines_length _ container)

theorem has_row_iff (results : Results) (row : Nat) (line : Line) :
    results.HasRow row line ↔ (lines results)[row]? = some line := by
  have above (place : Nat) : ((results.containers.take place).map fun container =>
      (containerLines (labelWidth results) container).length).sum = results.rowsAbove place :=
    congrArg List.sum (List.map_congr_left fun container _ => container_lines_length _ container)
  rw [lines, flat_map_at]
  constructor
  · rintro (⟨place, container, there⟩ | ⟨place, index, container, field, there, listed⟩ | ⟨place, container, there⟩)
    · exact ⟨place, container, 0, there, rfl, (above place).symm⟩
    · exact ⟨place, container, 1 + index, there, container_lines_field _ index container field listed,
        by rw [above]⟩
    · exact ⟨place, container, 1 + container.fields.length, there, container_lines_blank _ container,
        by rw [above]⟩
  · rintro ⟨place, container, offset, there, found, rfl⟩
    rw [above]
    rcases container_lines_at _ offset container line found with
      ⟨rfl, rfl⟩ | ⟨index, field, rfl, listed, rfl⟩ | ⟨rfl, rfl⟩
    · exact .title place container there
    · exact .field place index container field there listed
    · exact .blank place container there

-- What the document has does not depend on how far it is scrolled.
theorem scrolled_has_row (results : Results) (scroll row : Nat) (line : Line) :
    (results.scrolledTo scroll).HasRow row line ↔ results.HasRow row line := by
  rw [has_row_iff, has_row_iff]
  rfl

theorem drawn_scroll (results : Results) (width height : Nat) (shown : results.isEmpty = false) :
    (drawn results width height).scroll = min results.scroll (results.rowCount - height) := by
  rw [drawn_shown results width height shown, lines_length]

theorem rows_parts (results : Results) (width height : Nat) (shown : results.isEmpty = false) :
    let window := visible results (drawn results width height).scroll height
    rows results width height = window.map (·.paint width) ++ blankRows width (height - window.length) := by
  rw [rows, shown, if_neg Bool.false_ne_true]

theorem visible_fits (results : Results) (scroll height : Nat) : (visible results scroll height).length ≤ height := by
  unfold visible
  split
  · exact List.length_take_le _ _
  · exact Nat.zero_le height

theorem rows_length (results : Results) (width height : Nat) (shown : results.isEmpty = false) :
    (rows results width height).length = height := by
  rw [rows_parts results width height shown, List.length_append, List.length_map, blankRows, List.length_replicate]
  exact Nat.add_sub_cancel' (visible_fits results _ height)

-- As far as rows can be counted, the window is the part of the document from the scroll on.
theorem visible_window (results : Results) (scroll height : Nat) (counted : scroll + height ≤ maxRows) :
    visible results scroll height = ((lines results).drop scroll).take height := by
  have within : min scroll maxRows = scroll := Nat.min_eq_left (by omega)
  rw [visible, within, if_pos counted]

theorem row_on_screen (results : Results) (width height row : Nat) (line : Line) (shown : results.isEmpty = false)
    (there : results.HasRow row line) (above : (drawn results width height).scroll ≤ row)
    (below : row < (drawn results width height).scroll + height)
    (counted : (drawn results width height).scroll + height ≤ maxRows) :
    (rows results width height)[row - (drawn results width height).scroll]? = some (line.paint width) := by
  have found := (has_row_iff results row line).mp there
  have window : (visible results (drawn results width height).scroll
      height)[row - (drawn results width height).scroll]? = some line := by
    rw [visible_window _ _ _ counted, List.getElem?_take_of_lt (by omega), List.getElem?_drop,
      Nat.add_sub_cancel' above, found]
  have inside := (List.getElem?_eq_some_iff.mp window).1
  rw [rows_parts results width height shown, List.getElem?_append_left (by rwa [List.length_map]), List.getElem?_map,
    window]
  rfl

theorem blank_below (results : Results) (width height place : Nat) (shown : results.isEmpty = false)
    (past : results.rowCount - (drawn results width height).scroll ≤ place) (inside : place < height) :
    (rows results width height)[place]? = some (blankRow width) := by
  have short : (visible results (drawn results width height).scroll height).length ≤ place := by
    unfold visible
    split
    · rw [List.length_take, List.length_drop, lines_length]
      have clamped : (drawn results width height).scroll ≤ maxRows := by omega
      rw [Nat.min_eq_left clamped]
      exact Nat.le_trans (Nat.min_le_right _ _) past
    · exact Nat.zero_le place
  rw [rows_parts results width height shown, List.getElem?_append_right (by rwa [List.length_map]), List.length_map,
    blankRows, List.getElem?_replicate, if_pos (by omega)]

-- Nothing is shown of what lies below the rows that can be counted.
theorem rows_uncounted (results : Results) (width height : Nat) (shown : results.isEmpty = false) (room : 0 < height)
    (uncounted : maxRows < (drawn results width height).scroll + height) :
    rows results width height = blankRows width height := by
  have none : visible results (drawn results width height).scroll height = [] := by
    rw [visible, if_neg (by omega)]
  rw [rows_parts results width height shown, none]
  rfl

-- A row that can be counted comes into the window when its place is scrolled to, or the last one from which the
-- window still lies within the document and can be counted.
theorem row_reached (results : Results) (width height row : Nat) (line : Line) (shown : results.isEmpty = false)
    (room : 0 < height) (countable : height ≤ maxRows) (there : results.HasRow row line) (counted : row < maxRows) :
    let moved := results.scrolledTo (min row (min (maxRows - height) (results.rowCount - height)))
    ∃ place, (drawn moved width height).scroll + place = row ∧
      (rows moved width height)[place]? = some (line.paint width) := by
  intro moved
  have bound : row < results.rowCount := by
    rw [← lines_length]
    exact (List.getElem?_eq_some_iff.mp ((has_row_iff results row line).mp there)).1
  have scroll : (drawn moved width height).scroll =
      min (min row (min (maxRows - height) (results.rowCount - height))) (results.rowCount - height) :=
    drawn_scroll moved width height shown
  refine ⟨row - (drawn moved width height).scroll, by omega, ?_⟩
  exact row_on_screen moved width height row line shown ((scrolled_has_row results _ row line).mpr there) (by omega)
    (by omega) (by omega)

-- However far it was scrolled below the end of the document, once drawn it is at the end.
theorem drawn_past_end (results : Results) (width height scroll : Nat)
    (first : results.rowCount - height ≤ results.scroll) (second : results.rowCount - height ≤ scroll)
    (shown : results.isEmpty = false) :
    drawn (results.scrolledTo scroll) width height = drawn results width height := by
  rw [drawn_shown results width height shown, drawn_shown (results.scrolledTo scroll) width height shown,
    lines_length, lines_length, Nat.min_eq_right first]
  have clamped : min (results.scrolledTo scroll).scroll ((results.scrolledTo scroll).rowCount - height) =
      results.rowCount - height := Nat.min_eq_right second
  rw [clamped]
  rfl

end Screen.ResultsPane

namespace Explorer

-- Commands one after another, all at one time.
def applyAll (explorer : Explorer) (commands : List Command) (now : Time) : Explorer :=
  commands.foldl (fun explorer command => (explorer.apply command now).1) explorer

theorem scroll_down (explorer : Explorer) (steps : Nat) (now : Time) :
    (explorer.applyAll (List.replicate steps .scrollDown) now).view.results =
      explorer.view.results.scrolledTo (explorer.view.results.scroll + steps) := by
  induction steps generalizing explorer with
  | zero => rfl
  | succ steps ih =>
      rw [List.replicate_succ, applyAll, List.foldl_cons]
      refine (ih (explorer.apply .scrollDown now).1).trans ?_
      simp [apply, Results.scrollDown, Results.scrolledTo, Nat.add_assoc, Nat.add_comm 1]

theorem scroll_up (explorer : Explorer) (steps : Nat) (now : Time) :
    (explorer.applyAll (List.replicate steps .scrollUp) now).view.results =
      explorer.view.results.scrolledTo (explorer.view.results.scroll - steps) := by
  induction steps generalizing explorer with
  | zero => rfl
  | succ steps ih =>
      rw [List.replicate_succ, applyAll, List.foldl_cons]
      refine (ih (explorer.apply .scrollUp now).1).trans ?_
      simp [apply, Results.scrollUp, Results.scrolledTo, Nat.sub_sub, Nat.add_comm 1]

-- Scrolling reaches any place.
theorem scroll_reaches (explorer : Explorer) (scroll : Nat) (now : Time) :
    ∃ commands, (∀ command ∈ commands, command = .scrollUp ∨ command = .scrollDown) ∧
      (explorer.applyAll commands now).view.results = explorer.view.results.scrolledTo scroll := by
  rcases Nat.le_total explorer.view.results.scroll scroll with down | up
  · refine ⟨List.replicate (scroll - explorer.view.results.scroll) .scrollDown, ?_, ?_⟩
    · exact fun command member => .inr (List.eq_of_mem_replicate member)
    · rw [scroll_down, Nat.add_sub_cancel' down]
  · refine ⟨List.replicate (explorer.view.results.scroll - scroll) .scrollUp, ?_, ?_⟩
    · exact fun command member => .inl (List.eq_of_mem_replicate member)
    · rw [scroll_up, Nat.sub_sub_self up]

open Screen.ResultsPane

theorem window_follows_the_scroll (explorer : Explorer) (width height : Nat)
    (shown : explorer.view.results.isEmpty = false) (room : 0 < height) (countable : height ≤ maxRows) :
    let results := explorer.view.results
    let scroll := (drawn results width height).scroll
    let screen := rows results width height
    scroll = min results.scroll (results.rowCount - height) ∧ screen.length = height ∧
      (results.rowCount ≤ maxRows → scroll + height ≤ maxRows) ∧
      (scroll + height ≤ maxRows →
        (∀ place, place < min height (results.rowCount - scroll) →
          ∃ line, results.HasRow (scroll + place) line ∧ screen[place]? = some (line.paint width)) ∧
        ∀ place, results.rowCount - scroll ≤ place → place < height → screen[place]? = some (Screen.blankRow width)) ∧
      (∀ steps now,
        let down := (explorer.applyAll (List.replicate steps .scrollDown) now).view.results
        (drawn down width height).scroll = min (results.scroll + steps) (results.rowCount - height) ∧
          (results.rowCount - height ≤ results.scroll → drawn down width height = drawn results width height)) ∧
      ∀ row line, results.HasRow row line → row < maxRows → ∀ now,
        ∃ commands, (∀ command ∈ commands, command = .scrollUp ∨ command = .scrollDown) ∧
          let moved := (explorer.applyAll commands now).view.results
          ∃ place, (drawn moved width height).scroll + place = row ∧
            (rows moved width height)[place]? = some (line.paint width) := by
  intro results scroll screen
  have clamped : scroll = min results.scroll (results.rowCount - height) := drawn_scroll results width height shown
  refine ⟨clamped, rows_length results width height shown, by omega, ?_, ?_, ?_⟩
  · intro counted
    refine ⟨?_, fun place past inside => blank_below results width height place shown past inside⟩
    intro place inside
    have bound : scroll + place < (lines results).length := by
      rw [lines_length]
      omega
    have there := (has_row_iff results (scroll + place) _).mpr (List.getElem?_eq_getElem bound)
    have onScreen := row_on_screen results width height (scroll + place) _ shown there (Nat.le_add_right _ _)
      (by omega) counted
    rw [Nat.add_sub_cancel_left] at onScreen
    exact ⟨_, there, onScreen⟩
  · intro steps now down
    have moved : down = results.scrolledTo (results.scroll + steps) := scroll_down explorer steps now
    rw [moved]
    refine ⟨drawn_scroll _ width height shown, ?_⟩
    exact fun past => drawn_past_end results width height _ past (Nat.le_trans past (Nat.le_add_right _ _)) shown
  · intro row line there counted now
    obtain ⟨commands, moves, reached⟩ := scroll_reaches explorer _ now
    refine ⟨commands, moves, ?_⟩
    rw [reached]
    exact row_reached results width height row line shown room countable there counted

-- Seven rows, scrolled past their end.
def scrolledPast : Explorer :=
  { Explorer.start true 0 with
    view.results :=
      { containers :=
          [⟨0, "Block", [⟨"Hash", .hash, some "00aa", none, none⟩, ⟨"Height", .plain, some "1", none, none⟩]⟩,
           ⟨1, "Address", [⟨"Address", .plain, some "1abc", none, none⟩]⟩]
        nextId := 2
        scroll := 9 } }

theorem scrolled_past_shows_the_end :
    let results := scrolledPast.view.results
    results.isEmpty = false ∧ 0 < 3 ∧ 3 ≤ maxRows ∧ (drawn results 20 3).scroll = 4 ∧
      (∃ line, results.HasRow 5 line ∧ (rows results 20 3)[1]? = some (line.paint 20)) ∧
      ∃ commands, (∀ command ∈ commands, command = .scrollUp ∨ command = .scrollDown) ∧
        let moved := (scrolledPast.applyAll commands 0).view.results
        ∃ place, (drawn moved 20 3).scroll + place = 0 ∧
          (rows moved 20 3)[place]? = some (Screen.Line.paint [⟨"Block", .title⟩] 20) := by
  intro results
  have shown : results.isEmpty = false := rfl
  have countable : 3 ≤ maxRows := by decide
  obtain ⟨clamped, _, _, window, _, reached⟩ := window_follows_the_scroll scrolledPast 20 3 shown (by decide) countable
  have scroll : (drawn results 20 3).scroll = 4 := clamped.trans (by decide)
  have counted : (drawn results 20 3).scroll + 3 ≤ maxRows := scroll ▸ by decide
  have inside : 1 < min 3 (results.rowCount - (drawn results 20 3).scroll) := scroll ▸ by decide
  have fifth := (window counted).1 1 inside
  rw [scroll] at fifth
  have top : results.HasRow 0 [⟨"Block", .title⟩] := (has_row_iff results 0 _).mpr rfl
  exact ⟨shown, by decide, countable, scroll, fifth, reached 0 _ top (by decide) 0⟩

-- Blank containers, and below them one with a title.
def tall (blanks : Nat) : Results :=
  { containers := List.replicate blanks ⟨0, "", []⟩ ++ [⟨0, "x", []⟩], nextId := 1, scroll := blanks * 2 }

theorem tall_shown (blanks : Nat) : (tall blanks).isEmpty = false := by
  simp [tall, Results.isEmpty]

theorem tall_row_count (blanks : Nat) : (tall blanks).rowCount = blanks * 2 + 2 := by
  simp [Results.rowCount, tall, Container.rowCount]

theorem tall_last_title (blanks : Nat) : (tall blanks).HasRow (blanks * 2) [⟨"x", .title⟩] := by
  have above : (tall blanks).rowsAbove blanks = blanks * 2 := by
    simp [Results.rowsAbove, tall, Container.rowCount]
  have last : (tall blanks).HasRow ((tall blanks).rowsAbove blanks) [⟨"x", .title⟩] :=
    .title blanks ⟨0, "x", []⟩ (by simp [tall])
  rwa [above] at last

theorem tall_scroll (blanks : Nat) : (drawn (tall blanks) 1 1).scroll = blanks * 2 := by
  rw [drawn_scroll (tall blanks) 1 1 (tall_shown blanks), tall_row_count]
  show min (blanks * 2) (blanks * 2 + 2 - 1) = blanks * 2
  omega

theorem tall_first_row (blanks : Nat) :
    (tall blanks).HasRow ((drawn (tall blanks) 1 1).scroll + 0) [⟨"x", .title⟩] := by
  rw [tall_scroll]
  exact tall_last_title blanks

theorem tall_blank (blanks : Nat) (many : maxRows ≤ blanks * 2) :
    (rows (tall blanks) 1 1)[0]? ≠ some (Screen.Line.paint [⟨"x", .title⟩] 1) := by
  rw [rows_uncounted (tall blanks) 1 1 (tall_shown blanks) Nat.one_pos (by rw [tall_scroll]; omega)]
  decide

theorem last_rows_may_be_out_of_reach :
    ¬ ∀ (results : Results) (width height : Nat), results.isEmpty = false → 0 < height →
      let scroll := (drawn results width height).scroll
      scroll = min results.scroll (results.rowCount - height) ∧
        ∀ place line, place < height → results.HasRow (scroll + place) line →
          (rows results width height)[place]? = some (line.paint width) := by
  intro claim
  obtain ⟨_, window⟩ := claim (tall 32768) 1 1 (tall_shown 32768) Nat.one_pos
  exact tall_blank 32768 (by decide) (window 0 _ Nat.one_pos (tall_first_row 32768))

end Explorer
end ChainExplorer
