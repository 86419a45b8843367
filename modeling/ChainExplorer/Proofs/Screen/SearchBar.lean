import ChainExplorer.Proofs.Search.Editing
import ChainExplorer.Screen.SearchBar

set_option autoImplicit false

namespace ChainExplorer

namespace Text

theorem expansions_present : ∀ entry ∈ upperExpansions, entry.2 ≠ [] := by decide +kernel

theorem upper_char_present (c : Char) : 0 < (upperChar c).length := by
  unfold upperChar
  split
  · exact Nat.one_pos
  · unfold otherCase
    split
    · rename_i entry found
      rw [List.length_map]
      exact List.length_pos_iff.mpr (expansions_present entry (List.mem_of_find?_eq_some found))
    · split <;> exact Nat.one_pos

theorem upper_chars_append (first second : List Char) :
    upperChars (first ++ second) = upperChars first ++ upperChars second := List.flatMap_append

-- Upper case is as long as the text where each letter has one capital, and longer otherwise.
theorem upper_chars_length (text : List Char) :
    text.length ≤ (upperChars text).length ∧
      ((upperChars text).length = text.length ↔ ∀ c ∈ text, (upperChar c).length = 1) := by
  induction text with
  | nil => simp [upperChars]
  | cons c rest ih =>
      have present := upper_char_present c
      have split : (upperChars (c :: rest)).length = (upperChar c).length + (upperChars rest).length := by
        rw [upperChars, List.flatMap_cons, List.length_append]
        rfl
      rw [split, List.length_cons, List.forall_mem_cons, ← ih.2]
      omega

end Text

namespace Search.Input

-- Characters of the line as it displays them.
def shown (input : Input) (text : List Char) : List Char :=
  match input.transform with
  | .asTyped => text
  | .upperCase => Text.upperChars text

theorem display_split (input : Input) :
    input.display.toList = input.shown input.before ++ input.shown input.after := by
  unfold display shown
  cases input.transform with
  | asTyped => exact input.before_after
  | upperCase =>
      rw [Text.upper, String.toList_ofList, input.before_after]
      exact Text.upper_chars_append _ _

theorem shown_length (input : Input) (text : List Char) :
    text.length ≤ (input.shown text).length ∧
      ((input.shown text).length = text.length ↔
        input.transform = .asTyped ∨ ∀ c ∈ text, (Text.upperChar c).length = 1) := by
  unfold shown
  cases input.transform with
  | asTyped => simp
  | upperCase => simpa using Text.upper_chars_length text

theorem before_length (input : Input) (inside : input.cursor ≤ input.length) :
    input.before.length = input.cursor := by
  rw [before, List.length_take, String.length_toList]
  exact Nat.min_eq_left inside

end Search.Input

namespace Screen.SearchBar

open Search (Input)
open Search.Input (Edit)

-- The bar divides what is displayed after as many characters as stand before the cursor.
theorem bar_divides (bar : SearchBar) (inside : bar.input.cursor ≤ bar.input.length) :
    let front := bar.input.shown bar.input.before
    bar.beforeCursor = String.ofList (front.take bar.input.cursor) ∧
      bar.afterCursor = String.ofList (front.drop bar.input.cursor ++ bar.input.shown bar.input.after) := by
  intro front
  have reaches : bar.input.cursor ≤ front.length :=
    (bar.input.before_length inside) ▸ (bar.input.shown_length bar.input.before).1
  rw [beforeCursor, afterCursor, bar.input.display_split, List.take_append_of_le_length reaches,
    List.drop_append_of_le_length reaches]
  exact ⟨rfl, rfl⟩

theorem focused_line (bar : SearchBar) (focused : bar.focused = true) (unselected : bar.input.selected = false) :
    bar.line = [⟨">", .dimmed⟩, ⟨" ", .normal⟩, ⟨bar.beforeCursor, .normal⟩, ⟨"│", .cursor⟩,
      ⟨bar.afterCursor, .normal⟩] := by
  rw [line, query, unselected, focused]
  rfl

theorem edits_inside (edits : List Edit) :
    (edits.foldl Input.perform .empty).cursor ≤ (edits.foldl Input.perform .empty).length := by
  obtain ⟨_, _, shows⟩ := Input.edits_show edits
  rw [Input.shows_length _ _ shows, shows.cursor]
  exact Nat.le_add_right _ _

theorem bar_stands_where_capitals_are_single (edits : List Edit) (loading : Bool) :
    let input := edits.foldl Input.perform .empty
    let bar : SearchBar := ⟨input, true, loading⟩
    input.selected = false →
      bar.line = [⟨">", .dimmed⟩, ⟨" ", .normal⟩, ⟨bar.beforeCursor, .normal⟩, ⟨"│", .cursor⟩,
          ⟨bar.afterCursor, .normal⟩] ∧
        (∃ passed, passed.length = (input.shown input.before).length - input.before.length ∧
          input.shown input.before = bar.beforeCursor.toList ++ passed ∧
          bar.afterCursor.toList = passed ++ input.shown input.after) ∧
        (bar.beforeCursor = String.ofList (input.shown input.before) ∧
            bar.afterCursor = String.ofList (input.shown input.after) ↔
          input.transform = .asTyped ∨ ∀ c ∈ input.before, (Text.upperChar c).length = 1) := by
  intro input bar unselected
  have inside : input.cursor ≤ input.length := edits_inside edits
  have place : input.before.length = input.cursor := input.before_length inside
  obtain ⟨longer, single⟩ := input.shown_length input.before
  obtain ⟨before, after⟩ := bar_divides bar inside
  rw [place] at longer single ⊢
  refine ⟨focused_line bar rfl unselected, ⟨(input.shown input.before).drop input.cursor, ?_, ?_, ?_⟩, ?_⟩
  · exact List.length_drop
  · rw [before, String.toList_ofList]
    exact (List.take_append_drop _ _).symm
  · rw [after, String.toList_ofList]
  · rw [before, after, ← single]
    constructor
    · rintro ⟨whole, _⟩
      have size : min input.cursor (input.shown input.before).length = (input.shown input.before).length := by
        rw [← List.length_take]
        exact congrArg List.length (String.ofList_injective whole)
      omega
    · intro same
      have reaches := Nat.le_of_eq same
      exact ⟨congrArg String.ofList (List.take_of_length_le reaches),
        by rw [List.drop_of_length_le reaches, List.nil_append]⟩

-- The cursor is behind a letter whose capital is two letters, and the bar stands between the two.
def behindSharpS : List Edit := [.setValue "straße", .left, .setTransform .upperCase]

theorem sharp_s_is_divided :
    let bar : SearchBar := ⟨behindSharpS.foldl Input.perform .empty, true, false⟩
    bar.input.selected = false ∧ bar.beforeCursor = "STRAS" ∧ bar.afterCursor = "SE" ∧
      ∃ passed, passed.length = 1 ∧
        bar.input.shown bar.input.before = bar.beforeCursor.toList ++ passed ∧
        bar.afterCursor.toList = passed ++ bar.input.shown bar.input.after := by
  intro bar
  have unselected : bar.input.selected = false := by decide +kernel
  have added : (bar.input.shown bar.input.before).length - bar.input.before.length = 1 := by decide +kernel
  obtain ⟨_, ⟨passed, size, before, after⟩, _⟩ := bar_stands_where_capitals_are_single behindSharpS false unselected
  exact ⟨unselected, by decide +kernel, by decide +kernel, passed, size.trans added, before, after⟩

theorem bar_may_stand_apart :
    ¬ ∀ (edits : List Edit) (loading : Bool),
      let input := edits.foldl Input.perform .empty
      let bar : SearchBar := ⟨input, true, loading⟩
      input.selected = false →
        bar.beforeCursor = String.ofList (input.shown input.before) ∧
          bar.afterCursor = String.ofList (input.shown input.after) := by
  intro claim
  have before := (claim behindSharpS false (by decide +kernel)).1
  revert before
  decide +kernel

end Screen.SearchBar
end ChainExplorer
