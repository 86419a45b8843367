import ChainExplorer.Proofs.Explorer.Structure
import ChainExplorer.Proofs.Screen.Document
import ChainExplorer.Proofs.Screen.Painting

set_option autoImplicit false

namespace ChainExplorer

namespace Screen.ResultsPane

-- What stands in the row of a field before its value, and the value itself.
def leading (column : Nat) (label : String) : Line :=
  [⟨String.ofList (List.replicate indent ' '), .normal⟩, ⟨padded column label, .label⟩,
   ⟨String.ofList (List.replicate labelGap ' '), .normal⟩]

def valueSpan (field : Field) : Span :=
  ⟨field.value.getD "", if field.kind.bearsHash then .hash else .normal⟩

-- The cells that the label of a field takes, and those that its row has left for the value.
def labelColumns (results : Results) (width : Nat) (field : Field) : Nat :=
  columns width (Span.glyphs ⟨padded (labelWidth results) field.label, .label⟩)

def valueRoom (results : Results) (width : Nat) (field : Field) : Nat :=
  width - (indent + labelColumns results width field + labelGap)

theorem container_shown (results : Results) (place : Nat) (container : Container)
    (there : results.containers[place]? = some container) : results.isEmpty = false :=
  List.isEmpty_eq_false_iff_exists_mem.mpr ⟨container, List.mem_of_getElem? there⟩

theorem label_listed (results : Results) (container : Container) (field : Field)
    (shown : container ∈ results.containers) (listed : field ∈ container.fields) : field.label ∈ results.labels :=
  List.mem_map_of_mem (List.mem_flatMap.mpr ⟨container, shown, listed⟩)

theorem spaces_columns (width count : Nat) (room : 0 < width) :
    columns width (Span.glyphs ⟨String.ofList (List.replicate count ' '), .normal⟩) = count := by
  have printable : Text.Printable (String.ofList (List.replicate count ' ')).toList := by
    rw [String.toList_ofList]
    exact Text.spaces_printable count
  rw [columns_printable width _ .normal room printable, String.length_ofList, List.length_replicate]

theorem leading_columns (results : Results) (width : Nat) (field : Field) (room : 0 < width) :
    columns width (Line.glyphs (leading (labelWidth results) field.label)) =
      indent + labelColumns results width field + labelGap := by
  rw [Line.glyphs, leading, List.flatMap_cons, List.flatMap_cons, List.flatMap_cons, List.flatMap_nil, List.append_nil,
    columns_append, columns_append, spaces_columns width indent room, spaces_columns width labelGap room, labelColumns,
    Nat.add_assoc]

-- The value is painted into the room that is left for it.
theorem field_painted (results : Results) (width : Nat) (field : Field) (room : 0 < width) :
    ∃ before, before.length = width - valueRoom results width field ∧
      (fieldLine (labelWidth results) field).paint width =
        before ++ paintGlyphs width (valueRoom results width field) (valueSpan field).glyphs := by
  have parts : Line.glyphs (fieldLine (labelWidth results) field) =
      Line.glyphs (leading (labelWidth results) field.label) ++ (valueSpan field).glyphs := by
    show (leading (labelWidth results) field.label ++ [valueSpan field]).flatMap Span.glyphs = _
    rw [List.flatMap_append, List.flatMap_singleton]
    rfl
  have painted := paint_behind width width (Line.glyphs (leading (labelWidth results) field.label))
    (valueSpan field).glyphs
  rw [leading_columns results width field room] at painted
  rw [Line.paint, parts]
  exact painted

-- A printable label that is not too long takes the column that was measured for it, whatever the other labels are.
theorem label_columns_printable (results : Results) (width : Nat) (field : Field) (room : 0 < width)
    (label : field.label ∈ results.labels) (printable : Text.Printable field.label.toList)
    (short : field.label.length ≤ maxLabelWidth) : labelColumns results width field = labelWidth results := by
  have measured : Text.joinedWidth field.label ≤ (results.labels.map Text.joinedWidth).max?.getD 0 :=
    List.le_max?_getD_of_mem (List.mem_map_of_mem label)
  have within : field.label.length ≤ labelWidth results := by
    rw [Text.joined_width_printable field.label printable] at measured
    rw [label_width, List.foldl_max, Nat.zero_max]
    exact Nat.le_min.mpr ⟨short, measured⟩
  have spaced : Text.Printable (padded (labelWidth results) field.label).toList := by
    rw [padded, String.toList_append, String.toList_ofList]
    intro c member
    rcases List.mem_append.mp member with own | space
    · exact printable c own
    · exact Text.spaces_printable _ c space
  rw [labelColumns, columns_printable width _ .label room spaced, padded, String.length_append, String.length_ofList,
    List.length_replicate]
  exact Nat.add_sub_cancel' within

theorem drawn_at (results : Results) (width height place index : Nat) (container : Container) (field : Field)
    (there : results.containers[place]? = some container) (listed : container.fields[index]? = some field) :
    ∃ boxed, (drawn results width height).containers[place]? = some boxed ∧
      boxed.fields[index]? = some (field.setBox ⟨valueWidth results width, 1⟩) := by
  rw [drawn_shown results width height (container_shown results place container there)]
  refine ⟨{ container with fields := container.fields.map (·.setBox ⟨valueWidth results width, 1⟩) }, ?_, ?_⟩
  · rw [record, List.getElem?_map, there]
    rfl
  · rw [List.getElem?_map, listed]
    rfl

-- Whether the measured width of the value counts all cells that the value takes.
def CountsAll (field : Field) : Prop := ((valueSpan field).glyphs.map Glyph.width).sum ≤ field.contentWidth

theorem printable_counts_all (field : Field) (printable : Text.Printable (valueSpan field).text.toList) :
    CountsAll field := by
  have measured : field.contentWidth = (valueSpan field).text.length := by
    cases known : field.value with
    | none => simp [Field.contentWidth, valueSpan, known]
    | some text =>
        rw [valueSpan, known] at printable
        simpa [Field.contentWidth, valueSpan, known] using Text.joined_width_printable text printable
  rw [CountsAll, measured]
  exact Nat.le_of_eq (total_printable _ _ printable)

-- A value that fits its box is painted whole where its room is no less than the box.
theorem fitting_painted (results : Results) (width : Nat) (field : Field)
    (enough : valueWidth results width ≤ valueRoom results width field) (counted : CountsAll field)
    (fits : (field.setBox ⟨valueWidth results width, 1⟩).isOverflowing = false) :
    paintGlyphs width (valueRoom results width field) (valueSpan field).glyphs =
      (valueSpan field).cells ++ blankRow (valueRoom results width field - (valueSpan field).cells.length) := by
  have judged : (decide (valueWidth results width < field.contentWidth) || (false && decide (0 < field.contentWidth))) =
      false := fits
  have box : field.contentWidth ≤ valueWidth results width := by simpa using judged
  have total : ((valueSpan field).glyphs.map Glyph.width).sum ≤ valueRoom results width field :=
    Nat.le_trans counted (Nat.le_trans box enough)
  have whole := ink_all width (valueSpan field) (Nat.le_trans total (Nat.sub_le _ _))
  rw [paint_whole width _ _ (Nat.le_trans (columns_le width _) total), ← ink_length, whole]

theorem box_is_the_room_beside_a_fitting_label (results : Results) (width height place index : Nat)
    (container : Container) (field : Field) (there : results.containers[place]? = some container)
    (listed : container.fields[index]? = some field) (room : 0 < width) :
    let after := drawn results width height
    let box : Box := ⟨valueWidth results width, 1⟩
    let row := results.rowsAbove place + (1 + index)
    (∃ boxed, after.containers[place]? = some boxed ∧ boxed.fields[index]? = some (field.setBox box)) ∧
      (box.width = valueRoom results width field ↔
        labelColumns results width field = labelWidth results ∨
          width ≤ indent + min (labelColumns results width field) (labelWidth results) + labelGap) ∧
      (Text.Printable field.label.toList → field.label.length ≤ maxLabelWidth →
        labelColumns results width field = labelWidth results) ∧
      (after.scroll ≤ row → row < after.scroll + height → after.scroll + height ≤ maxRows →
        ∃ before value, (rows results width height)[row - after.scroll]? = some (before ++ value) ∧
          value.length = valueRoom results width field ∧ before.length + value.length = width ∧
          value = paintGlyphs width (valueRoom results width field) (valueSpan field).glyphs ∧
          (box.width ≤ valueRoom results width field → (field.setBox box).isOverflowing = false → CountsAll field →
            value = (valueSpan field).cells ++ blankRow (value.length - (valueSpan field).cells.length))) ∧
      (Text.Printable (valueSpan field).text.toList → CountsAll field ∧
        (valueSpan field).cells =
          (valueSpan field).text.toList.map fun c => ⟨String.ofList [c], (valueSpan field).style⟩) := by
  intro after box row
  have shown : results.isEmpty = false := container_shown results place container there
  have label : field.label ∈ results.labels :=
    label_listed results container field (List.mem_of_getElem? there) (List.mem_of_getElem? listed)
  refine ⟨drawn_at results width height place index container field there listed, ?_,
    label_columns_printable results width field room label, ?_, ?_⟩
  · show width - (indent + labelWidth results + labelGap) =
      width - (indent + labelColumns results width field + labelGap) ↔ _
    omega
  · intro above below counted
    have screen := row_on_screen results width height row _ shown (.field place index container field there listed)
      above below counted
    obtain ⟨before, length, painted⟩ := field_painted results width field room
    have value := paint_length width (valueRoom results width field) (valueSpan field).glyphs
    rw [painted] at screen
    refine ⟨before, _, screen, value, ?_, rfl, ?_⟩
    · rw [length, value]
      exact Nat.sub_add_cancel (Nat.sub_le _ _)
    · intro enough fits counts
      rw [value]
      exact fitting_painted results width field enough counts fits
  · intro printable
    exact ⟨printable_counts_all field printable, cells_printable _ _ printable⟩

def fee : Field := ⟨"Fee", .plain, some "226", none, none⟩

def feeContainer : Container := ⟨0, "Transaction", [⟨"Hash", .transactionHash, some "00aa", none, none⟩, fee]⟩

def feeDocument : Results := ⟨[feeContainer], 1, 0⟩

theorem fee_beside_its_label :
    feeDocument.containers[0]? = some feeContainer ∧ feeContainer.fields[1]? = some fee ∧ 0 < 20 ∧
      valueWidth feeDocument 20 = 12 ∧ valueRoom feeDocument 20 fee = 12 ∧
      ∃ before value, (rows feeDocument 20 4)[2]? = some (before ++ value) ∧ before.length = 8 ∧
        value = (valueSpan fee).cells ++ blankRow 9 := by
  obtain ⟨_, same, plain, painted, whole⟩ :=
    box_is_the_room_beside_a_fitting_label feeDocument 20 4 0 1 feeContainer fee rfl rfl (by decide)
  have box : valueWidth feeDocument 20 = 12 := by decide
  have room : valueRoom feeDocument 20 fee = 12 :=
    (same.mpr (.inl (plain (by decide) (by decide)))).symm.trans box
  have scroll : (drawn feeDocument 20 4).scroll = 0 := by decide
  have row : feeDocument.rowsAbove 0 + (1 + 1) = 2 := rfl
  rw [scroll, row] at painted
  obtain ⟨before, value, screen, taken, sides, _, complete⟩ := painted (by decide) (by decide) (by decide)
  have cells : (valueSpan fee).cells.length = 3 := by decide
  have fits : (fee.setBox ⟨valueWidth feeDocument 20, 1⟩).isOverflowing = false := by decide
  rw [room] at taken complete
  have last := complete (Nat.le_of_eq box) fits (whole (by decide)).1
  rw [taken, cells] at last
  exact ⟨rfl, rfl, by decide, box, room, before, value, screen, by omega, last⟩

-- A label of 27 letters, which take as many cells where 20 are reckoned with.
def longField : Field := ⟨"Previous output transaction", .plain, some "abcdefgh", none, none⟩

def longDocument : Results := ⟨[⟨0, "Transaction", [longField]⟩], 1, 0⟩

theorem box_may_exceed_the_room :
    (¬ ∀ (results : Results) (width height place index : Nat) (container : Container) (field : Field),
      results.containers[place]? = some container → container.fields[index]? = some field → 0 < width → 0 < height →
      ∃ boxed, (drawn results width height).containers[place]? = some boxed ∧
        boxed.fields[index]? = some (field.setBox ⟨valueRoom results width field, 1⟩)) ∧
    ¬ ∀ (results : Results) (width height place index : Nat) (container : Container) (field : Field),
      results.containers[place]? = some container → container.fields[index]? = some field → 0 < width →
      (field.setBox ⟨valueWidth results width, 1⟩).isOverflowing = false →
      let scroll := (drawn results width height).scroll
      let row := results.rowsAbove place + (1 + index)
      scroll ≤ row → row < scroll + height →
      ∃ cells, (rows results width height)[row - scroll]? = some cells ∧ (valueSpan field).cells <:+: cells := by
  constructor
  · intro claim
    obtain ⟨boxed, here, found⟩ := claim longDocument 35 4 0 0 _ longField rfl rfl (by decide) (by decide)
    obtain ⟨other, there, recorded⟩ := drawn_at longDocument 35 4 0 0 _ longField rfl rfl
    cases here.symm.trans there
    have same := congrArg (Option.map Field.box) (found.symm.trans recorded)
    exact absurd same (by decide +kernel)
  · intro claim
    have scroll : (drawn longDocument 35 4).scroll = 0 := by decide
    obtain ⟨cells, shown, complete⟩ := claim longDocument 35 4 0 0 _ longField rfl rfl (by decide) (by decide)
      (scroll ▸ Nat.zero_le _) (scroll ▸ by decide)
    have row : longDocument.rowsAbove 0 + (1 + 0) - 0 = 1 := rfl
    rw [scroll, row] at shown
    have cut : ((rows longDocument 35 4)[1]?.all fun cells => !decide ((valueSpan longField).cells <:+: cells)) =
        true := by decide +kernel
    rw [shown] at cut
    simp [complete] at cut

end Screen.ResultsPane

namespace Explorer

open Search (Completion)
open Screen.ResultsPane

-- Labels for which the column of the values is what the boxes say.
def PlainlyLabelled (results : Results) : Prop :=
  ∀ label ∈ results.labels, Text.Printable label.toList ∧ label.length ≤ maxLabelWidth

def aspectLabels : Aspect → List String
  | .block =>
      ["Hash", "Height", "Previous Block", "Merkle Root", "Timestamp", "Difficulty", "Nonce", "Size", "Transactions",
        ""]
  | .address => ["Address", "Balance", "Transactions", ""]
  | .transaction => ["Hash", "Block", "Size", "Fee", "Input", "Output"]

theorem aspect_labels (aspect : Aspect) (object : Json.Value) (field : Field) (member : field ∈ aspect.fields object) :
    Text.Printable field.label.toList ∧ field.label.length ≤ maxLabelWidth := by
  have grouped : (aspect.groups object).map Rows.label = aspectLabels aspect := by cases aspect <;> rfl
  have plain : ∀ label ∈ aspectLabels aspect, Text.Printable label.toList ∧ label.length ≤ maxLabelWidth := by
    cases aspect <;> decide
  rw [aspect.fields_grouped object] at member
  obtain ⟨rows, group, row⟩ := List.mem_flatMap.mp member
  obtain ⟨text, _, rfl⟩ := List.mem_map.mp row
  exact plain rows.label (grouped ▸ List.mem_map_of_mem group)

theorem receive_labelled (explorer : Explorer) (labelled : PlainlyLabelled explorer.view.results)
    (completion : Completion) : PlainlyLabelled (explorer.receive completion).view.results := by
  cases making : explorer.made? completion with
  | none =>
      rw [receive_unmade explorer completion making]
      exact labelled
  | some container =>
      obtain ⟨_, _, shown, _⟩ := receive_made explorer completion container making
      obtain ⟨rendering, _, rfl⟩ := Option.map_eq_some_iff.mp making
      intro label member
      rw [Results.labels, shown, List.flatMap_singleton] at member
      obtain ⟨field, listed, rfl⟩ := List.mem_map.mp member
      exact aspect_labels rendering.aspect rendering.object field listed

theorem answered_labelled (explorer : Explorer) (labelled : PlainlyLabelled explorer.view.results) :
    PlainlyLabelled explorer.answered.view.results :=
  List.foldlRecOn (motive := fun after : Explorer => PlainlyLabelled after.view.results) explorer.inbox _ labelled
    fun after before completion _ => receive_labelled after before completion

theorem remains_labelled (before after : Results) (remains : Session.Remains before after)
    (labelled : PlainlyLabelled before) : PlainlyLabelled after := by
  rcases remains.1 with same | cleared
  · rw [PlainlyLabelled, Results.labels, same]
    exact labelled
  · rw [PlainlyLabelled, Results.labels, cleared]
    exact List.forall_mem_nil _

theorem act_labelled (explorer : Explorer) (labelled : PlainlyLabelled explorer.view.results) (action : Action) :
    PlainlyLabelled (explorer.act action).view.results := by
  cases action with
  | apply command time =>
      exact remains_labelled _ _ (Session.apply_remains explorer command time).1 labelled
  | deliver completion =>
      unfold act deliver
      dsimp only
      split <;> exact labelled
  | advance now =>
      have labels := (Formatter.tick_retexts (explorer.requested now) explorer.answered.view.results now).labels
      rw [PlainlyLabelled, advance_view, labels]
      exact answered_labelled explorer labelled
  | draw width height =>
      have labels := (drawn_frame explorer.view.results width (Screen.Layout.ofHeight height).results).1
      exact fun label member => labelled label (labels ▸ member)
  | _ => exact labelled

-- The explorer shows no label but those for which box and room agree.
theorem explorer_boxes_are_the_value_room (ignoreStale : Bool) (settleDelay : Time) (actions : List Action)
    (width : Nat) :
    let results := (actions.foldl act (start ignoreStale settleDelay)).view.results
    ∀ container ∈ results.containers, ∀ field ∈ container.fields,
      valueRoom results width field = valueWidth results width := by
  intro results container shown field listed
  have labelled : PlainlyLabelled results :=
    List.foldlRecOn (motive := fun after : Explorer => PlainlyLabelled after.view.results) actions _
      (fun _ member => nomatch member) fun explorer before action _ => act_labelled explorer before action
  have label := label_listed results container field shown listed
  obtain ⟨printable, short⟩ := labelled field.label label
  rcases Nat.eq_zero_or_pos width with none | room
  · rw [none, valueRoom, valueWidth, Nat.zero_sub, Nat.zero_sub]
  · rw [valueRoom, label_columns_printable results width field room label printable short]
    rfl

end Explorer
end ChainExplorer
