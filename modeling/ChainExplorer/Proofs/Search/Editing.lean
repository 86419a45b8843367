import ChainExplorer.Proofs.Text.Offset
import ChainExplorer.Search.Input
import Mathlib.Data.List.Induction

set_option autoImplicit false

namespace ChainExplorer.Search

namespace Input

theorem before_after (input : Input) : input.value.toList = input.before ++ input.after :=
  (List.take_append_drop _ _).symm

theorem offset_before (input : Input) : input.offset = Text.byteLength input.before := by
  by_cases inside : input.cursor < input.value.toList.length
  · rw [offset, Text.placed_at, List.getElem?_eq_getElem inside]
    exact Nat.zero_add _
  · have outside := Nat.le_of_not_lt inside
    rw [offset, Text.placed_at, List.getElem?_eq_none outside, before, List.take_of_length_le outside]
    rfl

theorem cut_at_cursor (input : Input) : Text.cut? input.offset input.value.toList = some (input.before, input.after) := by
  rw [offset_before, before_after, Text.cut_append]

-- The characters that an insertion leaves are those before the cursor, the new one, and those after the cursor.
theorem insert_finds (input : Input) (c : Char) :
    let ground := input.dropSelection
    input.insert? c =
      some { ground with value := String.ofList (ground.before ++ c :: ground.after), cursor := ground.cursor + 1 } := by
  intro ground
  rw [insert?, Text.insertAt?, cut_at_cursor]
  rfl

theorem insert_characters (input : Input) (c : Char) :
    let ground := input.dropSelection
    input.insert c =
      { ground with value := String.ofList (ground.before ++ c :: ground.after), cursor := ground.cursor + 1 } := by
  intro ground
  rw [insert, insert_finds]
  rfl

theorem drop_selection_unselected (input : Input) (unselected : input.selected = false) :
    input.dropSelection = input := by
  simp [dropSelection, unselected]

theorem drop_selection_selected (input : Input) (selected : input.selected = true) :
    input.dropSelection = input.clear := by
  simp [dropSelection, selected]

theorem prior_before (input : Input) (front : List Char) (last : Char) (before : input.before = front ++ [last]) :
    input.priorOffset? = some (Text.byteLength front) := by
  rw [priorOffset?, cut_at_cursor, before, Option.map_some]
  simp only [Text.placed_concat, List.getLast?_concat, Nat.zero_add]

theorem backspace_finds (input : Input) (front : List Char) (last : Char) (unselected : input.selected = false)
    (before : input.before = front ++ [last]) :
    input.backspace? =
      some { input with value := String.ofList (front ++ input.after), cursor := input.cursor - 1 } := by
  have behind : input.cursor ≠ 0 := by
    intro first
    simp [Input.before, first] at before
  have text : input.value.toList = front ++ last :: input.after := by
    rw [before_after, before, List.append_assoc, List.singleton_append]
  rw [backspace?, unselected, if_neg Bool.false_ne_true, if_neg behind, prior_before input front last before,
    Option.bind_some, Text.removeAt?, text, Text.cut_append]
  rfl

theorem delete_finds (input : Input) (unselected : input.selected = false) :
    input.delete? = some { input with value := String.ofList (input.before ++ input.after.tail) } := by
  rw [delete?, unselected, if_neg Bool.false_ne_true, Text.removeAt?, cut_at_cursor, offset_before, before_after input,
    Text.byte_length_append]
  cases after : input.after with
  | nil =>
      have whole : String.ofList input.before = input.value := by
        rw [← String.ofList_toList (s := input.value), before_after input, after, List.append_nil]
      simp [Text.byteLength, whole, ← unselected]
  | cons c rest =>
      have inside : 0 < Text.byteLength (c :: rest) := Nat.add_pos_left c.utf8Size_pos _
      rw [if_pos (Nat.lt_add_of_pos_right inside)]
      rfl

inductive Edit where
  | insert (c : Char)
  | backspace
  | delete
  | left
  | right
  | home
  | toEnd
  | setValue (text : String)
  | clear
  | selectAll
  | deselect
  | setTransform (transform : Transform)

def perform (input : Input) : Edit → Input
  | .insert c => input.insert c
  | .backspace => input.backspace
  | .delete => input.delete
  | .left => input.left
  | .right => input.right
  | .home => input.home
  | .toEnd => input.toEnd
  | .setValue text => input.setValue text
  | .clear => input.clear
  | .selectAll => input.selectAll
  | .deselect => input.deselect
  | .setTransform transform => input.withTransform transform

-- As above, and nothing if an edit finds no place in the text.
def perform? (input : Input) : Edit → Option Input
  | .insert c => input.insert? c
  | .backspace => input.backspace?
  | .delete => input.delete?
  | edit => some (input.perform edit)

def Edit.transform? : Edit → Option Transform
  | .setTransform transform => some transform
  | _ => none

end Input

-- The characters before the cursor, and those after it.
structure Editor where
  before : List Char
  after : List Char
  selected : Bool

namespace Editor

open Input (Edit)

def empty : Editor := ⟨[], [], false⟩

def perform (editor : Editor) : Edit → Editor
  | .insert c => if editor.selected then ⟨[c], [], false⟩ else ⟨editor.before ++ [c], editor.after, false⟩
  | .backspace => if editor.selected then empty else ⟨editor.before.dropLast, editor.after, false⟩
  | .delete => if editor.selected then empty else ⟨editor.before, editor.after.tail, false⟩
  | .left => ⟨editor.before.dropLast, editor.before.getLast?.toList ++ editor.after, false⟩
  | .right => ⟨editor.before ++ editor.after.head?.toList, editor.after.tail, false⟩
  | .home => ⟨[], editor.before ++ editor.after, false⟩
  | .toEnd => ⟨editor.before ++ editor.after, [], false⟩
  | .setValue text => ⟨text.toList, [], false⟩
  | .clear => empty
  | .selectAll => ⟨editor.before ++ editor.after, [], !(editor.before ++ editor.after).isEmpty⟩
  | .deselect => ⟨editor.before, editor.after, false⟩
  | .setTransform _ => editor

end Editor

namespace Input

-- The line holds what the editor holds. A selection is one of some characters, with the cursor behind them.
structure Shows (input : Input) (editor : Editor) : Prop where
  text : input.value.toList = editor.before ++ editor.after
  cursor : input.cursor = editor.before.length
  selected : input.selected = editor.selected
  whole : editor.selected = true → editor.before ≠ [] ∧ editor.after = []

theorem empty_shows : empty.Shows .empty := ⟨rfl, rfl, rfl, nofun⟩

theorem clear_shows (input : Input) : input.clear.Shows .empty := ⟨rfl, rfl, rfl, nofun⟩

-- A line that has been rewritten, with nothing selected.
theorem written_shows (before after : List Char) (cursor : Nat) (transform : Transform)
    (place : cursor = before.length) :
    Shows ⟨String.ofList (before ++ after), cursor, false, transform⟩ ⟨before, after, false⟩ :=
  ⟨String.toList_ofList, place, rfl, nofun⟩

variable (input : Input) (editor : Editor) (shows : input.Shows editor)

include shows

theorem shows_before : input.before = editor.before := by
  rw [before, shows.text, shows.cursor, List.take_left]

theorem shows_after : input.after = editor.after := by
  rw [after, shows.text, shows.cursor, List.drop_left]

theorem shows_length : input.length = editor.before.length + editor.after.length := by
  rw [length, ← String.length_toList, shows.text, List.length_append]

theorem shows_empty : input.isEmpty = (editor.before ++ editor.after).isEmpty := by
  rw [Bool.eq_iff_iff, isEmpty, String.isEmpty_iff, ← String.toList_eq_nil_iff, shows.text, List.isEmpty_iff]

-- A cursor that has moved within the text.
theorem moved_shows (before after : List Char) (cursor : Nat) (same : before ++ after = editor.before ++ editor.after)
    (place : cursor = before.length) :
    Shows { input with selected := false, cursor } ⟨before, after, false⟩ :=
  ⟨shows.text.trans same.symm, place, rfl, nofun⟩

theorem insert_shows (c : Char) : (input.insert c).Shows (editor.perform (.insert c)) := by
  rw [insert_characters]
  cases selected : editor.selected with
  | true =>
      rw [drop_selection_selected input (shows.selected.trans selected), Editor.perform, if_pos selected]
      exact written_shows [c] [] 1 input.transform rfl
  | false =>
      have unselected := shows.selected.trans selected
      rw [drop_selection_unselected input unselected, Editor.perform, if_neg (by simp [selected]),
        shows_before input editor shows, shows_after input editor shows, unselected,
        List.append_cons editor.before c editor.after]
      exact written_shows _ _ _ _ (by simp [shows.cursor])

theorem backspace_shows :
    ∃ after, input.backspace? = some after ∧ after.transform = input.transform ∧
      after.Shows (editor.perform .backspace) := by
  cases selected : editor.selected with
  | true =>
      rw [backspace?, if_pos (shows.selected.trans selected), Editor.perform, if_pos selected]
      exact ⟨_, rfl, rfl, clear_shows input⟩
  | false =>
      have unselected := shows.selected.trans selected
      rw [Editor.perform, if_neg (by simp [selected])]
      rcases List.eq_nil_or_concat editor.before with none | ⟨front, last, some⟩
      · have first : input.cursor = 0 := by rw [shows.cursor, none, List.length_nil]
        rw [backspace?, unselected, if_neg Bool.false_ne_true, if_pos first]
        refine ⟨input, rfl, rfl, ?_, ?_, unselected, nofun⟩
        · rw [shows.text, none, List.dropLast_nil]
        · rw [first, none]
          rfl
      · rw [List.concat_eq_append] at some
        have before := (shows_before input editor shows).trans some
        rw [backspace_finds input front last unselected before, some, List.dropLast_concat,
          shows_after input editor shows, unselected]
        exact ⟨_, rfl, rfl, written_shows _ _ _ _ (by simp [shows.cursor, some])⟩

theorem delete_shows :
    ∃ after, input.delete? = some after ∧ after.transform = input.transform ∧
      after.Shows (editor.perform .delete) := by
  cases selected : editor.selected with
  | true =>
      rw [delete?, if_pos (shows.selected.trans selected), Editor.perform, if_pos selected]
      exact ⟨_, rfl, rfl, clear_shows input⟩
  | false =>
      have unselected := shows.selected.trans selected
      rw [Editor.perform, if_neg (by simp [selected]), delete_finds input unselected, unselected,
        shows_before input editor shows, shows_after input editor shows]
      exact ⟨_, rfl, rfl, written_shows _ _ _ _ shows.cursor⟩

theorem left_shows : input.left.Shows (editor.perform .left) := by
  refine moved_shows input editor shows _ _ _ ?_ ?_
  · rcases List.eq_nil_or_concat editor.before with none | ⟨front, last, some⟩
    · simp [none]
    · simp [some]
  · rw [shows.cursor, List.length_dropLast]

theorem right_shows : input.right.Shows (editor.perform .right) := by
  refine moved_shows input editor shows _ _ _ ?_ ?_
  · cases editor.after <;> simp
  · rw [shows_length input editor shows, shows.cursor]
    cases editor.after <;> simp

theorem select_all_shows : input.selectAll.Shows (editor.perform .selectAll) := by
  refine ⟨?_, ?_, ?_, ?_⟩
  · rw [Editor.perform, List.append_nil]
    exact shows.text
  · rw [Editor.perform, List.length_append]
    exact shows_length input editor shows
  · exact congrArg (!·) (shows_empty input editor shows)
  · intro selected
    refine ⟨?_, rfl⟩
    simpa [Editor.perform, ← List.append_eq_nil_iff] using selected

theorem perform_shows (edit : Edit) :
    ∃ after, input.perform? edit = some after ∧ input.perform edit = after ∧
      after.transform = edit.transform?.getD input.transform ∧ after.Shows (editor.perform edit) := by
  cases edit with
  | insert c =>
      have found := insert_finds input c
      refine ⟨_, found, by rw [perform, insert, found]; rfl, ?_, ?_⟩
      · rw [dropSelection]
        split <;> rfl
      · rw [← insert_characters]
        exact insert_shows input editor shows c
  | backspace =>
      obtain ⟨after, found, transform, shows⟩ := backspace_shows input editor shows
      exact ⟨after, found, by rw [perform, backspace, found]; rfl, transform, shows⟩
  | delete =>
      obtain ⟨after, found, transform, shows⟩ := delete_shows input editor shows
      exact ⟨after, found, by rw [perform, delete, found]; rfl, transform, shows⟩
  | left => exact ⟨_, rfl, rfl, rfl, left_shows input editor shows⟩
  | right => exact ⟨_, rfl, rfl, rfl, right_shows input editor shows⟩
  | home => exact ⟨_, rfl, rfl, rfl, moved_shows input editor shows _ _ _ rfl rfl⟩
  | toEnd =>
      refine ⟨_, rfl, rfl, rfl, moved_shows input editor shows _ _ _ (List.append_nil _) ?_⟩
      rw [shows_length input editor shows, List.length_append]
  | setValue text => exact ⟨_, rfl, rfl, rfl, (List.append_nil _).symm, String.length_toList.symm, rfl, nofun⟩
  | clear => exact ⟨_, rfl, rfl, rfl, clear_shows input⟩
  | selectAll => exact ⟨_, rfl, rfl, rfl, select_all_shows input editor shows⟩
  | deselect => exact ⟨_, rfl, rfl, rfl, moved_shows input editor shows _ _ _ rfl shows.cursor⟩
  | setTransform transform => exact ⟨_, rfl, rfl, rfl, shows.text, shows.cursor, shows.selected, shows.whole⟩

omit shows

-- The display transform that was set last.
def lastTransform (edits : List Edit) : Transform := (edits.filterMap Edit.transform?).getLast?.getD .asTyped

theorem edits_show (edits : List Edit) :
    let input := edits.foldl perform empty
    edits.foldlM perform? empty = some input ∧ input.transform = lastTransform edits ∧
      input.Shows (edits.foldl Editor.perform .empty) := by
  induction edits using List.reverseRecOn with
  | nil => exact ⟨rfl, rfl, empty_shows⟩
  | append_singleton edits last ih =>
      obtain ⟨found, transform, shows⟩ := ih
      obtain ⟨after, step, same, kept, shown⟩ := perform_shows _ _ shows last
      rw [List.foldlM_append, found, List.foldl_append, List.foldl_append]
      simp only [List.foldl_cons, List.foldl_nil, same]
      refine ⟨(bind_pure _).trans step, ?_, shown⟩
      rw [kept, transform, lastTransform, lastTransform, List.filterMap_append, List.getLast?_append]
      cases last <;> rfl

theorem input_is_an_editor (edits : List Edit) :
    let input := edits.foldl perform empty
    let editor := edits.foldl Editor.perform .empty
    (input.value = String.ofList (editor.before ++ editor.after) ∧ input.cursor = editor.before.length ∧
        input.selected = editor.selected ∧ input.transform = lastTransform edits) ∧
      input.cursor ≤ input.length ∧
      (input.selected = true → input.value ≠ "" ∧ input.cursor = input.length) ∧
      (input.offset = (String.ofList editor.before).utf8ByteSize ∧
        (String.Pos.Raw.mk input.offset).IsValid input.value) ∧
      (∀ front last, editor.before = front ++ [last] →
        input.priorOffset? = some (String.ofList front).utf8ByteSize ∧
          (String.Pos.Raw.mk (String.ofList front).utf8ByteSize).IsValid input.value) ∧
      edits.foldlM perform? empty = some input := by
  intro input editor
  obtain ⟨found, transform, shows⟩ := edits_show edits
  have before : input.before = editor.before := shows_before _ _ shows
  have length : input.length = editor.before.length + editor.after.length := shows_length _ _ shows
  have value : input.value = String.ofList (editor.before ++ editor.after) := by
    rw [← String.ofList_toList (s := input.value), shows.text]
  refine ⟨⟨value, shows.cursor, shows.selected, transform⟩, ?_, ?_, ⟨?_, ?_⟩, ?_, found⟩
  · rw [length, shows.cursor]
    exact Nat.le_add_right _ _
  · intro selected
    obtain ⟨some, none⟩ := shows.whole (shows.selected.symm.trans selected)
    refine ⟨?_, ?_⟩
    · rw [value, none, List.append_nil]
      simpa using some
    · rw [length, shows.cursor, none]
      rfl
  · rw [offset_before, before, Text.byte_length_utf8]
  · rw [← Text.cut_valid, cut_at_cursor]
    rfl
  · intro front last split
    rw [prior_before input front last (before.trans split), Text.byte_length_utf8]
    refine ⟨rfl, ?_⟩
    rw [← Text.cut_valid, value, split, String.toList_ofList, ← Text.byte_length_utf8, List.append_assoc,
      Text.cut_append]
    rfl

end Input
end ChainExplorer.Search
