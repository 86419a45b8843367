import ChainExplorer.Proofs.Results.Lookup
import ChainExplorer.Screen.ResultsPane

set_option autoImplicit false

namespace ChainExplorer

theorem Field.set_box_same (field : Field) (box : Box) (same : field.box = some box) : field.setBox box = field := by
  unfold setBox
  rw [← same]

namespace Results

-- Every field has the box of a drawing at the given width.
def Boxed (results : Results) (width : Nat) : Prop :=
  ∀ id field, results.field? id = some field → field.box = some ⟨Screen.ResultsPane.valueWidth results width, 1⟩

end Results

namespace Screen.ResultsPane

theorem label_width (results : Results) :
    labelWidth results = min maxLabelWidth ((results.labels.map Text.joinedWidth).foldl max 0) := by
  rw [Results.labels, List.map_map]
  rfl

theorem label_width_labels (first second : Results) (same : first.labels = second.labels) :
    labelWidth first = labelWidth second := by
  rw [label_width, label_width, same]

theorem value_width_labels (first second : Results) (width : Nat) (same : first.labels = second.labels) :
    valueWidth first width = valueWidth second width := by
  rw [valueWidth, valueWidth, label_width_labels first second same]

theorem record_labels (results : Results) (box : Box) : (record results box).labels = results.labels := by
  unfold Results.labels record
  induction results.containers with
  | nil => rfl
  | cons container rest ih =>
      simp only [List.map_cons, List.flatMap_cons, List.map_append, ih, List.map_map]
      rfl

theorem record_field (results : Results) (box : Box) (id : FieldId) :
    (record results box).field? id = (results.field? id).map (·.setBox box) := by
  unfold Results.field? Results.container? record
  rw [List.find?_map]
  have same : ((fun container : Container => container.id == id.container) ∘ fun container : Container =>
      { container with fields := container.fields.map (·.setBox box) }) =
      fun container => container.id == id.container := rfl
  rw [same]
  cases results.containers.find? fun container => container.id == id.container with
  | none => rfl
  | some container => simp

theorem empty_field (results : Results) (empty : results.isEmpty) (id : FieldId) : results.field? id = none := by
  have bare : results.containers = [] := List.isEmpty_iff.mp empty
  unfold Results.field? Results.container?
  rw [bare]
  rfl

theorem drawn_field (results : Results) (width height : Nat) (id : FieldId) :
    (drawn results width height).field? id =
      (results.field? id).map (·.setBox ⟨valueWidth results width, 1⟩) := by
  unfold drawn
  by_cases empty : results.isEmpty
  · rw [if_pos empty, empty_field results empty id]
    rfl
  · rw [if_neg empty]
    exact record_field results ⟨valueWidth results width, 1⟩ id

-- What drawing leaves as it is, the boxes apart.
theorem drawn_frame (results : Results) (width height : Nat) :
    (drawn results width height).labels = results.labels ∧
      (drawn results width height).nextId = results.nextId ∧
      (drawn results width height).containers.length = results.containers.length := by
  unfold drawn
  by_cases empty : results.isEmpty
  · rw [if_pos empty]
    exact ⟨rfl, rfl, rfl⟩
  · rw [if_neg empty]
    exact ⟨record_labels results _, rfl, List.length_map _⟩

theorem drawn_boxed (results : Results) (width height : Nat) : (drawn results width height).Boxed width := by
  intro id field found
  rw [drawn_field] at found
  obtain ⟨old, _, same⟩ := Option.map_eq_some_iff.mp found
  rw [value_width_labels _ results width (drawn_frame results width height).1, ← same]
  rfl

theorem redrawn_field (results : Results) (width height : Nat) (id : FieldId) (field : Field)
    (found : results.field? id = some field) (boxed : field.box = some ⟨valueWidth results width, 1⟩) :
    (drawn results width height).field? id = some field := by
  rw [drawn_field, found, Option.map_some, Field.set_box_same field _ boxed]

end Screen.ResultsPane
end ChainExplorer
