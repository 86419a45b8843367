import ChainExplorer.Proofs.Explorer.Line
import ChainExplorer.Proofs.Search.Editing
import ChainExplorer.Terminal.Event

set_option autoImplicit false

namespace ChainExplorer

open Search (Controller Input Request)

namespace Search.Input

theorem insert_at_end (input : Input) (c : Char) (unselected : input.selected = false)
    (atEnd : input.cursor = input.length) :
    (input.insert c).value = String.ofList (input.value.toList ++ [c]) ∧
      (input.insert c).cursor = input.cursor + 1 ∧ (input.insert c).selected = false := by
  have whole : input.cursor = input.value.toList.length := atEnd.trans String.length_toList.symm
  rw [insert_characters, drop_selection_unselected input unselected]
  dsimp only [before, after]
  rw [whole, List.take_length, List.drop_length]
  exact ⟨rfl, rfl, unselected⟩

-- With everything selected, or nothing to select, a character takes the place of the whole text.
theorem insert_selected (input : Input) (c : Char) :
    (input.selectAll.insert c).value = String.ofList [c] ∧ (input.selectAll.insert c).cursor = 1 ∧
      (input.selectAll.insert c).selected = false := by
  cases empty : input.isEmpty with
  | true =>
      have nothing : input.value = "" := String.isEmpty_iff.mp empty
      have unselected : input.selectAll.selected = false := by simp [selectAll, empty]
      obtain ⟨value, cursor, kept⟩ := insert_at_end input.selectAll c unselected rfl
      have text : input.selectAll.value.toList = [] := congrArg String.toList nothing
      have start : input.selectAll.cursor = 0 := congrArg String.length nothing
      rw [text] at value
      rw [start] at cursor
      exact ⟨value, cursor, kept⟩
  | false =>
      have selected : input.selectAll.selected = true := by simp [selectAll, empty]
      rw [insert_characters, drop_selection_selected _ selected]
      exact ⟨rfl, rfl, rfl⟩

end Search.Input

namespace Terminal

-- What an event of the terminal does to the explorer.
def feed (explorer : Explorer) (event : Event) (time : Time) : Explorer :=
  match event.command? explorer.controller.focused with
  | none => explorer
  | some command => (explorer.apply command time).1

-- A character that is typed, with or without the shift key.
structure Stroke where
  character : Char
  shifted : Bool
  time : Time

namespace Stroke

def event (stroke : Stroke) : Event :=
  .key (.char stroke.character) (if stroke.shifted then .onlyShift else .none) .press

def type (explorer : Explorer) (stroke : Stroke) : Explorer := feed explorer stroke.event stroke.time

theorem event_command (stroke : Stroke) : stroke.event.command? true = some (.key (.char stroke.character)) := by
  obtain ⟨character, shifted, _⟩ := stroke
  cases shifted <;> simp [event, Event.command?, everywhere?, typed?, Modifiers.none, Modifiers.onlyShift,
    Modifiers.onlyControl]

end Stroke

theorem enter_command (modifiers : Modifiers) :
    (Event.key .enter modifiers .press).command? true = some (.key .enter) := by
  simp [Event.command?, everywhere?, typed?]

-- The line has the focus and holds a text, with the cursor behind it, and nothing has been searched for.
structure Holds (before after : Explorer) (text : List Char) : Prop where
  focused : after.controller.focused = true
  value : after.controller.input.value = String.ofList text
  cursor : after.controller.input.cursor = text.length
  unselected : after.controller.input.selected = false
  outbox : after.outbox = before.outbox
  next : after.controller.nextRequest = before.controller.nextRequest

theorem type_character (explorer : Explorer) (stroke : Stroke) (focused : explorer.controller.focused = true) :
    stroke.type explorer =
      { explorer with controller := (explorer.controller.edit (.char stroke.character)).release } := by
  unfold Stroke.type feed
  rw [focused, stroke.event_command]
  have typed : explorer.controller.type (.char stroke.character) =
      ((explorer.controller.edit (.char stroke.character)).release, none) := rfl
  unfold Explorer.apply Explorer.withController
  dsimp only
  rw [if_pos focused, typed, Option.toList_none, List.append_nil]

theorem first_stroke_holds (explorer : Explorer) (time : Time) (stroke : Stroke) :
    Holds explorer (stroke.type (explorer.apply .focus time).1) [stroke.character] := by
  rw [type_character (explorer.apply .focus time).1 stroke rfl]
  obtain ⟨value, cursor, unselected⟩ := Input.insert_selected explorer.controller.input stroke.character
  exact ⟨rfl, value, cursor, unselected, rfl, rfl⟩

theorem stroke_holds (before after : Explorer) (text : List Char) (holds : Holds before after text) (stroke : Stroke) :
    Holds before (stroke.type after) (text ++ [stroke.character]) := by
  have atEnd : after.controller.input.cursor = after.controller.input.length := by
    rw [holds.cursor, Input.length, holds.value, String.length_ofList]
  obtain ⟨value, cursor, unselected⟩ :=
    Input.insert_at_end after.controller.input stroke.character holds.unselected atEnd
  rw [holds.value, String.toList_ofList] at value
  rw [holds.cursor] at cursor
  rw [type_character after stroke holds.focused]
  exact ⟨holds.focused, value, by rw [List.length_append]; exact cursor, unselected, holds.outbox, holds.next⟩

theorem strokes_hold (strokes : List Stroke) (before after : Explorer) (text : List Char)
    (holds : Holds before after text) :
    Holds before (strokes.foldl Stroke.type after) (text ++ strokes.map Stroke.character) := by
  induction strokes generalizing after text with
  | nil => rwa [List.map_nil, List.append_nil]
  | cons stroke rest ih =>
      have step := ih (stroke.type after) (text ++ [stroke.character]) (stroke_holds before after text holds stroke)
      rwa [List.append_assoc] at step

theorem text_holds (explorer : Explorer) (time : Time) (text : String) (present : text ≠ "") (strokes : List Stroke)
    (spelled : strokes.map Stroke.character = text.toList) :
    Holds explorer (strokes.foldl Stroke.type (explorer.apply .focus time).1) text.toList := by
  cases strokes with
  | nil => exact absurd (String.toList_eq_nil_iff.mp spelled.symm) present
  | cons stroke rest =>
      rw [← spelled]
      exact strokes_hold rest explorer _ [stroke.character] (first_stroke_holds explorer time stroke)

theorem enter_searches (explorer : Explorer) (modifiers : Modifiers) (time : Time)
    (focused : explorer.controller.focused = true) (present : explorer.controller.input.value ≠ "") :
    let request : Request := ⟨explorer.controller.nextRequest, explorer.controller.input.value⟩
    feed explorer (.key .enter modifiers .press) time =
      { explorer with
        controller := (explorer.controller.sent request).release
        outbox := explorer.outbox ++ [request] } := by
  intro request
  have requested : explorer.controller.request? = some request := if_neg (mt String.isEmpty_iff.mp present)
  have typed : explorer.controller.type .enter = ((explorer.controller.sent request).release, some request) := by
    unfold Controller.type Controller.press Controller.submit
    rw [requested]
  unfold feed
  rw [focused, enter_command]
  unfold Explorer.apply Explorer.withController
  dsimp only
  rw [if_pos focused, typed]
  rfl

-- Without the focus, keys are shortcuts, and only those for Back and Forward reach the line.
theorem blurred_keeps_line (explorer : Explorer) (blurred : explorer.controller.focused = false) (event : Event)
    (time : Time) (notBack : event.command? false ≠ some .back) (notForward : event.command? false ≠ some .forward) :
    (feed explorer event time).controller.input.value = explorer.controller.input.value ∧
      (feed explorer event time).outbox = explorer.outbox := by
  unfold feed
  rw [blurred]
  cases means : event.command? false with
  | none => exact ⟨rfl, rfl⟩
  | some command =>
      cases command with
      | back => exact absurd means notBack
      | forward => exact absurd means notForward
      | key key =>
          have ignored : (explorer.apply (.key key) time).1 = explorer := by simp [Explorer.apply, blurred]
          dsimp only
          rw [ignored]
          exact ⟨rfl, rfl⟩
      | _ => exact ⟨rfl, rfl⟩

theorem typed_text_is_searched (explorer : Explorer) (text : String) (present : text ≠ "") (strokes : List Stroke)
    (spelled : strokes.map Stroke.character = text.toList) (start enter : Time) (modifiers : Modifiers) :
    let typed := strokes.foldl Stroke.type (explorer.apply .focus start).1
    let entered := feed typed (.key .enter modifiers .press) enter
    (typed.controller.input.value = text ∧ typed.controller.input.cursor = text.length ∧
        typed.outbox = explorer.outbox) ∧
      (entered.outbox = explorer.outbox ++ [⟨explorer.controller.nextRequest, text⟩] ∧
        entered.controller.loading = true ∧ entered.controller.focused = false ∧
        entered.controller.input.value = text ∧ entered.controller.input.selected = false) ∧
      (explorer.controller.focused = false → ∀ (event : Event) (time : Time),
        event.command? false ≠ some .back → event.command? false ≠ some .forward →
        (feed explorer event time).controller.input.value = explorer.controller.input.value ∧
          (feed explorer event time).outbox = explorer.outbox) := by
  intro typed entered
  have holds : Holds explorer typed text.toList := text_holds explorer start text present strokes spelled
  have value : typed.controller.input.value = text := holds.value.trans String.ofList_toList
  have searched : entered = _ := enter_searches typed modifiers enter holds.focused (value ▸ present)
  refine ⟨⟨value, holds.cursor.trans String.length_toList, holds.outbox⟩, ?_, blurred_keeps_line explorer⟩
  rw [searched, holds.outbox, holds.next, value]
  exact ⟨rfl, rfl, rfl, value, rfl⟩

-- A search is under way and the cursor stands within its text. What is looked for next is spelled with shortcuts.
def midway : Explorer :=
  List.foldl Explorer.act (.start false 200)
    [.load (some "00ff") 0, .apply .focus 0, .apply (.key .left) 0, .apply (.key .left) 0, .apply .blur 0]

theorem shortcuts_are_typed :
    "q/b" ≠ "" ∧ midway.controller.input.value = "00ff" ∧ midway.controller.focused = false ∧
      (Event.key (.char 'k') .none .press).command? false = some .scrollUp ∧
      let strokes : List Stroke := [⟨'q', false, 1⟩, ⟨'/', true, 2⟩, ⟨'b', false, 3⟩]
      let entered := feed (strokes.foldl Stroke.type (midway.apply .focus 1).1) (.key .enter .none .press) 4
      entered.outbox = [⟨1, "00ff"⟩, ⟨2, "q/b"⟩] ∧ entered.controller.input.value = "q/b" ∧
        (feed midway (.key (.char 'k') .none .press) 4).controller.input.value = "00ff" := by
  obtain ⟨_, ⟨sent, _, _, value, _⟩, blurred⟩ := typed_text_is_searched midway "q/b" (by decide)
    [⟨'q', false, 1⟩, ⟨'/', true, 2⟩, ⟨'b', false, 3⟩] rfl 1 4 .none
  refine ⟨by decide, by decide +kernel, by decide +kernel, by decide +kernel, sent, value, ?_⟩
  have kept := (blurred (by decide +kernel) (.key (.char 'k') .none .press) 4 (by decide) (by decide)).1
  exact kept.trans (by decide +kernel)

end Terminal
end ChainExplorer
