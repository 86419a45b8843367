import ChainExplorer.Proofs.Formatter.FullText

set_option autoImplicit false

namespace ChainExplorer

-- Whether a text needs more cells than there are.
def Box.overflowedBy (box : Box) (text : String) : Bool :=
  box.width < Text.joinedWidth text || (box.height = 0 && 0 < Text.joinedWidth text)

-- What is shown of a hash in a box.
def Box.fit (box : Box) (hash : String) : String := if box.overflowedBy hash then Hash.abbreviate hash else hash

namespace Field

-- The hash is remembered and on display in full.
def Restored (field : Field) (hash : String) : Prop := field.value = some hash ∧ field.fullHash = some hash

-- The hash is on display as the box of the last drawing has room for it.
def Fits (field : Field) (hash : String) : Prop := ∃ box, field.box = some box ∧ field.value = some (box.fit hash)

-- What is remembered is what passes go by.
def Coherent (field : Field) : Prop := ∀ hash, field.fullHash = some hash → field.hash? = some hash

-- What a measurement makes of a field.
def measured (field : Field) : Field :=
  match field.overflowingHash? with
  | none => field
  | some hash => field.setValue (Hash.abbreviate hash)

theorem derives_coherent (made field : Field) (derives : Derives made field) : field.Coherent := by
  intro hash remembered
  rcases derives.text with ⟨forgotten, _⟩ | ⟨text, _, full, _, known, _⟩
  · rw [forgotten] at remembered
    cases remembered
  · have same : text = hash := Option.some.inj (known.symm.trans remembered)
    subst same
    exact (hash_judged field text).mpr ⟨judged_remembered field text known full, full⟩

theorem in_full_restored (field : Field) (hash : String) (found : field.hash? = some hash) :
    field.inFull.Restored hash := by
  rw [in_full_hashed field hash found]
  exact ⟨rfl, rfl⟩

theorem overflowing_boxed (field : Field) (box : Box) (text : String) (drawn : field.box = some box)
    (shown : field.value = some text) : field.isOverflowing = box.overflowedBy text := by
  simp only [isOverflowing, contentWidth, drawn, shown, Box.overflowedBy]

theorem measured_fitting (field : Field) (fitting : field.overflowingHash? = none) : field.measured = field := by
  unfold measured
  rw [fitting]

theorem measured_overflowing (field : Field) (hash : String) (overflows : field.overflowingHash? = some hash) :
    field.measured = field.setValue (Hash.abbreviate hash) := by
  unfold measured
  rw [overflows]

theorem measured_hash (field : Field) (coherent : field.Coherent) : field.measured.hash? = field.hash? := by
  cases overflows : field.overflowingHash? with
  | none => rw [measured_fitting field overflows]
  | some hash =>
      have remembered := ((overflowing_hash field hash).mp overflows).2
      have found := coherent hash remembered
      have full := ((hash_judged field hash).mp found).2
      rw [measured_overflowing field hash overflows, found]
      exact (hash_judged _ hash).mpr ⟨judged_remembered _ hash remembered full, full⟩

theorem restored_measured_fits (field : Field) (hash : String) (box : Box) (drawn : field.box = some box)
    (restored : field.Restored hash) : field.measured.Fits hash := by
  obtain ⟨shown, remembered⟩ := restored
  have judged := overflowing_boxed field box hash drawn shown
  by_cases overflows : box.overflowedBy hash
  · have abbreviates := (overflowing_hash field hash).mpr ⟨judged.trans overflows, remembered⟩
    rw [measured_overflowing field hash abbreviates]
    exact ⟨box, drawn, by rw [Box.fit, if_pos overflows]; rfl⟩
  · have fitting : field.overflowingHash? = none := by
      rw [overflowingHash?, judged, if_neg overflows]
    rw [measured_fitting field fitting]
    exact ⟨box, drawn, by rw [Box.fit, if_neg overflows, shown]⟩

-- An abbreviation may overflow as well; it is then replaced by itself.
theorem fits_measured_fits (field : Field) (hash : String) (coherent : field.Coherent)
    (found : field.hash? = some hash) (fits : field.Fits hash) : field.measured.Fits hash := by
  obtain ⟨box, drawn, shown⟩ := fits
  cases overflows : field.overflowingHash? with
  | none =>
      rw [measured_fitting field overflows]
      exact ⟨box, drawn, shown⟩
  | some text =>
      obtain ⟨overflowing, remembered⟩ := (overflowing_hash field text).mp overflows
      have same : text = hash := Option.some.inj ((coherent text remembered).symm.trans found)
      subst same
      rw [measured_overflowing field text overflows]
      refine ⟨box, drawn, ?_⟩
      by_cases wide : box.overflowedBy text
      · rw [Box.fit, if_pos wide]
        rfl
      · rw [Box.fit, if_neg wide] at shown
        rw [overflowing_boxed field box text drawn shown] at overflowing
        exact absurd overflowing wide

end Field

namespace Formatter

-- The scope of a pass. A measurement is none.
def Task.scope? : Task → Option (Option ContainerId)
  | .globalPass => some none
  | .containerPass container => some (some container)
  | .measure _ => none

-- The task is a pass that visits the field if it bears a hash.
def Task.Covers (task : Task) (id : FieldId) : Prop :=
  ∃ scope, task.scope? = some scope ∧ (scope = none ∨ scope = some id.container)

theorem task_pass_or_measure (task : Task) : (∃ scope, task.scope? = some scope) ∨ ∃ id, task = .measure id := by
  cases task with
  | globalPass => exact .inl ⟨none, rfl⟩
  | containerPass container => exact .inl ⟨some container, rfl⟩
  | measure id => exact .inr ⟨id, rfl⟩

theorem measure_covers_nothing (measured id : FieldId) : ¬ (Task.measure measured).Covers id := by
  rintro ⟨scope, impossible, _⟩
  cases impossible

theorem handle_pass (formatter : Formatter) (results : Results) (now : Time) (due : Timer.Entry Task)
    (scope : Option ContainerId) (passes : due.task.scope? = some scope) :
    ∃ ground : Formatter, ground.timers = formatter.timers ∧
      formatter.handle results now due =
        ((ground.runPass results now scope).formatter, (ground.runPass results now scope).results) := by
  unfold handle
  cases task : due.task with
  | globalPass =>
      rw [task] at passes
      cases passes
      refine ⟨_, ?_, rfl⟩
      split <;> rfl
  | containerPass container =>
      rw [task] at passes
      cases passes
      exact ⟨{ formatter with owned := formatter.owned.filter (· != due.id) }, rfl, rfl⟩
  | measure id =>
      rw [task] at passes
      cases passes

theorem handle_measure (formatter : Formatter) (results : Results) (now : Time) (due : Timer.Entry Task)
    (id : FieldId) (measures : due.task = .measure id) :
    (formatter.handle results now due).1.timers = formatter.timers ∧
      (formatter.handle results now due).2 = (measure results id).1 := by
  unfold handle
  rw [measures]
  exact ⟨rfl, rfl⟩

theorem measure_field (results : Results) (id other : FieldId) :
    (measure results id).1.field? other =
      (results.field? other).map fun field => if other = id then field.measured else field := by
  unfold measure
  cases found : (results.field? id).bind Field.overflowingHash? with
  | none =>
      by_cases same : other = id
      · subst same
        cases here : results.field? other with
        | none => rfl
        | some field =>
            rw [here, Option.bind_some] at found
            simp [Field.measured_fitting field found]
      · simp [same]
  | some hash =>
      by_cases same : other = id
      · subst same
        obtain ⟨field, here, overflows⟩ := Option.bind_eq_some_iff.mp found
        rw [Results.field_update_same, here]
        simp [Field.measured_overflowing field hash overflows]
      · rw [Results.field_update_other _ _ _ _ same]
        simp [same]

-- The effect of a task on a field that bears a hash.
theorem handle_field (formatter : Formatter) (results : Results) (now : Time) (due : Timer.Entry Task)
    (id : FieldId) (field : Field) (found : results.field? id = some field) (bears : field.kind.bearsHash) :
    (due.task.Covers id → (formatter.handle results now due).2.field? id = some field.inFull) ∧
      (due.task = .measure id → (formatter.handle results now due).2.field? id = some field.measured) ∧
      (¬ due.task.Covers id → due.task ≠ .measure id →
        (formatter.handle results now due).2.field? id = some field) := by
  refine ⟨?_, ?_, ?_⟩
  · rintro ⟨scope, passes, inScope⟩
    obtain ⟨ground, _, same⟩ := handle_pass formatter results now due scope passes
    have visited := Results.found_hash_field results scope id field found bears inScope
    rw [same, run_pass_field, found, Option.map_some, if_pos visited]
  · intro measures
    rw [(handle_measure formatter results now due id measures).2, measure_field, found, Option.map_some, if_pos rfl]
  · intro uncovered unmeasured
    rcases task_pass_or_measure due.task with ⟨scope, passes⟩ | ⟨other, measures⟩
    · obtain ⟨ground, _, same⟩ := handle_pass formatter results now due scope passes
      have unvisited : id ∉ results.hashFields scope := by
        intro visited
        exact uncovered ⟨scope, passes, ((Results.mem_hash_fields results scope id).mp visited).1⟩
      rw [same, run_pass_field, found, Option.map_some, if_neg unvisited]
    · have apart : id ≠ other := by
        rintro rfl
        exact unmeasured measures
      rw [(handle_measure formatter results now due other measures).2, measure_field, found, Option.map_some,
        if_neg apart]

theorem handle_keeps_entries (formatter : Formatter) (results : Results) (now : Time) (due entry : Timer.Entry Task)
    (member : entry ∈ formatter.timers.entries) : entry ∈ (formatter.handle results now due).1.timers.entries := by
  rcases task_pass_or_measure due.task with ⟨scope, passes⟩ | ⟨id, measures⟩
  · obtain ⟨ground, timers, same⟩ := handle_pass formatter results now due scope passes
    rw [same]
    exact visits_keep_entries now _ ⟨ground, results, 0⟩ entry (timers ▸ member)
  · rwa [(handle_measure formatter results now due id measures).1]

-- What a task schedules is due at once, and it measures fields of containers on display.
theorem handle_new_entries (formatter : Formatter) (results : Results) (now : Time) (due entry : Timer.Entry Task)
    (member : entry ∈ (formatter.handle results now due).1.timers.entries) :
    entry ∈ formatter.timers.entries ∨
      (entry.deadline = now ∧ ∃ id, entry.task = .measure id ∧ id.container ∈ results.containers.map Container.id) := by
  rcases task_pass_or_measure due.task with ⟨scope, passes⟩ | ⟨id, measures⟩
  · obtain ⟨ground, timers, same⟩ := handle_pass formatter results now due scope passes
    rw [same] at member
    rcases visits_new_entries now _ ⟨ground, results, 0⟩ entry member with before | ⟨time, id, visited, task⟩
    · exact .inl (timers ▸ before)
    · obtain ⟨_, container, shown, owner, _⟩ := (Results.mem_hash_fields results scope id).mp visited
      exact .inr ⟨time, id, task, List.mem_map.mpr ⟨container, shown, owner⟩⟩
  · rw [(handle_measure formatter results now due id measures).1] at member
    exact .inl member

theorem handle_schedules (formatter : Formatter) (results : Results) (now : Time) (due : Timer.Entry Task)
    (id : FieldId) (field : Field) (hash : String) (found : results.field? id = some field)
    (bears : field.kind.bearsHash) (hashed : field.hash? = some hash) (covers : due.task.Covers id) :
    ∃ entry ∈ (formatter.handle results now due).1.timers.entries, entry.task = .measure id := by
  obtain ⟨scope, passes, inScope⟩ := covers
  obtain ⟨ground, _, same⟩ := handle_pass formatter results now due scope passes
  rw [same]
  refine visits_measure now _ ⟨ground, results, 0⟩ id hash ?_ ?_
  · exact Results.found_hash_field results scope id field found bears inScope
  · simpa [found] using hashed

theorem handle_ordered (formatter : Formatter) (results : Results) (now : Time) (due : Timer.Entry Task)
    (ordered : formatter.timers.Ordered) : (formatter.handle results now due).1.timers.Ordered := by
  rcases task_pass_or_measure due.task with ⟨scope, passes⟩ | ⟨id, measures⟩
  · obtain ⟨ground, timers, same⟩ := handle_pass formatter results now due scope passes
    rw [same]
    exact visits_ordered now _ ⟨ground, results, 0⟩ (timers ▸ ordered)
  · rwa [(handle_measure formatter results now due id measures).1]

end Formatter
end ChainExplorer
