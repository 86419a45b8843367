import ChainExplorer.Proofs.Screen.ResultsPane
import ChainExplorer.Screen.Basic

set_option autoImplicit false

namespace ChainExplorer

-- The same without what drawing writes down.
def Field.undrawn (field : Field) : Field := { field with box := none }

def Container.undrawn (container : Container) : Container :=
  { container with fields := container.fields.map Field.undrawn }

def Results.undrawn (results : Results) : Results :=
  { results with containers := results.containers.map Container.undrawn, scroll := 0 }

def Explorer.undrawn (explorer : Explorer) : Explorer :=
  { explorer with view.results := explorer.view.results.undrawn }

namespace Screen.ResultsPane

theorem record_undrawn (results : Results) (box : Box) : (record results box).undrawn = results.undrawn := by
  simp only [Results.undrawn, record, List.map_map, Function.comp_def, Container.undrawn]
  rfl

theorem record_twice (results : Results) (first second : Box) :
    record (record results first) second = record results second := by
  simp only [record, List.map_map, Function.comp_def]
  rfl

-- No row of the document shows a box.
theorem record_lines (results : Results) (box : Box) : lines (record results box) = lines results := by
  have column : labelWidth (record results box) = labelWidth results :=
    label_width_labels _ _ (record_labels results box)
  unfold lines
  rw [column, record, List.flatMap_map]
  congr 1
  funext container
  unfold containerLines
  rw [List.map_map]
  rfl

theorem drawn_undrawn (results : Results) (width height : Nat) :
    (drawn results width height).undrawn = results.undrawn := by
  unfold drawn
  by_cases empty : results.isEmpty
  · rw [if_pos empty]
  · rw [if_neg empty]
    exact record_undrawn results _

theorem drawn_empty (results : Results) (width height : Nat) :
    (drawn results width height).isEmpty = results.isEmpty := by
  unfold drawn
  by_cases empty : results.isEmpty
  · rw [if_pos empty]
  · rw [if_neg empty]
    exact List.isEmpty_map

theorem drawn_shown (results : Results) (width height : Nat) (shown : results.isEmpty = false) :
    drawn results width height =
      { record results ⟨valueWidth results width, 1⟩ with
        scroll := min results.scroll ((lines results).length - height) } := by
  rw [drawn, shown, if_neg Bool.false_ne_true]

theorem drawn_lines (results : Results) (width height : Nat) :
    lines (drawn results width height) = lines results := by
  cases shown : results.isEmpty with
  | true => rw [drawn, if_pos shown]
  | false =>
      rw [drawn_shown results width height shown]
      exact record_lines results _

-- The boxes and the scroll that a drawing has written down are those that the next one writes down.
theorem drawn_twice (results : Results) (width height : Nat) :
    drawn (drawn results width height) width height = drawn results width height := by
  cases shown : results.isEmpty with
  | true =>
      have same : drawn results width height = results := by rw [drawn, if_pos shown]
      rw [same, same]
  | false =>
      have still : (drawn results width height).isEmpty = false := (drawn_empty results width height).trans shown
      have box : valueWidth (drawn results width height) width = valueWidth results width :=
        value_width_labels _ _ width (drawn_frame results width height).1
      rw [drawn_shown _ width height still, drawn_lines, box, drawn_shown results width height shown]
      have containers := congrArg Results.containers
        (record_twice results ⟨valueWidth results width, 1⟩ ⟨valueWidth results width, 1⟩)
      simpa [record, Nat.min_assoc] using containers

theorem redrawn_rows (results : Results) (width height : Nat) :
    rows (drawn results width height) width height = rows results width height := by
  unfold rows visible
  rw [drawn_empty, drawn_twice, drawn_lines]

end Screen.ResultsPane

namespace Screen

theorem draw_undrawn (explorer : Explorer) (width height : Nat) :
    (draw explorer width height).1.undrawn = explorer.undrawn := by
  have results : (draw explorer width height).1.view.results =
      ResultsPane.drawn explorer.view.results width (Layout.ofHeight height).results := rfl
  unfold Explorer.undrawn
  rw [results, ResultsPane.drawn_undrawn]
  rfl

theorem drawing_only_records (explorer : Explorer) (width height : Nat) :
    let after := (draw explorer width height).1
    after.undrawn = explorer.undrawn ∧ draw after width height = draw explorer width height := by
  intro after
  have results : after.view.results =
      ResultsPane.drawn explorer.view.results width (Layout.ofHeight height).results := rfl
  refine ⟨draw_undrawn explorer width height, ?_⟩
  unfold draw
  dsimp only
  rw [results, ResultsPane.drawn_twice, ResultsPane.redrawn_rows]
  rfl

end Screen
end ChainExplorer
