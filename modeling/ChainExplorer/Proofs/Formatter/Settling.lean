import ChainExplorer.Proofs.Formatter.Handling

set_option autoImplicit false

namespace ChainExplorer

namespace Results

-- A property of every hash on display, by its address and its field.
def Everywhere (results : Results) (holds : FieldId → Field → String → Prop) : Prop :=
  ∀ id field hash, results.field? id = some field → field.kind.bearsHash → field.hash? = some hash →
    holds id field hash

theorem traces_coherent (made : List Container) (results : Results) (traces : Traces made results) (id : FieldId)
    (field : Field) (found : results.field? id = some field) : field.Coherent := by
  obtain ⟨_, _, _, original, _, derives⟩ := field_origin made results traces id field found
  exact Field.derives_coherent original field derives

end Results

namespace Formatter

def Awaits (pending : List (Timer.Entry Task)) (id : FieldId) : Prop := ∃ entry ∈ pending, entry.task.Covers id

def Measures (pending : List (Timer.Entry Task)) (id : FieldId) : Prop := ∃ entry ∈ pending, entry.task = .measure id

-- Whatever the box of the field, it will be measured.
def Unsettled (pending : List (Timer.Entry Task)) (id : FieldId) (field : Field) (hash : String) : Prop :=
  Awaits pending id ∨ (Measures pending id ∧ field.Restored hash)

def Progresses (pending : List (Timer.Entry Task)) (id : FieldId) (field : Field) (hash : String) : Prop :=
  Unsettled pending id field hash ∨ field.Fits hash

theorem remaining (selects : Task → Prop) (due : Timer.Entry Task) (later before after : List (Timer.Entry Task))
    (kept : ∀ entry ∈ before, entry ∈ after) (pending : ∃ entry ∈ due :: later ++ before, selects entry.task)
    (other : ¬ selects due.task) : ∃ entry ∈ later ++ after, selects entry.task := by
  obtain ⟨entry, member, selected⟩ := pending
  refine ⟨entry, ?_, selected⟩
  rcases List.mem_cons.mp member with same | rest
  · exact absurd (same ▸ selected) other
  · rcases List.mem_append.mp rest with waiting | queued
    · exact List.mem_append_left after waiting
    · exact List.mem_append_right later (kept entry queued)

-- A property of hashes carries over a task if it carries over to a field shown in full, to one that is
-- measured and to one that is left alone, each under the condition in which this happens.
theorem handle_everywhere (made : List Container) (formatter : Formatter) (results : Results) (now : Time)
    (due : Timer.Entry Task) (traces : Results.Traces made results) (before after : FieldId → Field → String → Prop)
    (holds : results.Everywhere before)
    (passed : ∀ id field hash, results.field? id = some field → field.kind.bearsHash → field.hash? = some hash →
      due.task.Covers id → after id field.inFull hash)
    (judged : ∀ id field hash, results.field? id = some field → field.hash? = some hash →
      due.task = .measure id → before id field hash → after id field.measured hash)
    (left : ∀ id field hash, ¬ due.task.Covers id → due.task ≠ .measure id → before id field hash →
      after id field hash) :
    (formatter.handle results now due).2.Everywhere after := by
  intro id field hash found bears hashed
  obtain ⟨old, access, kind, _⟩ := (handle_retexts formatter results now due).fields id field found
  have oldBears : old.kind.bearsHash := kind ▸ bears
  obtain ⟨visited, weighed, spared⟩ := handle_field formatter results now due id old access oldBears
  by_cases covered : due.task.Covers id
  · have same : old.inFull = field := Option.some.inj ((visited covered).symm.trans found)
    subst same
    exact passed id old hash access oldBears (old.in_full_hash ▸ hashed) covered
  · by_cases measures : due.task = .measure id
    · have same : old.measured = field := Option.some.inj ((weighed measures).symm.trans found)
      subst same
      have coherent := Results.traces_coherent made results traces id old access
      have oldHashed := (old.measured_hash coherent).symm.trans hashed
      exact judged id old hash access oldHashed measures (holds id old hash access oldBears oldHashed)
    · have same : old = field := Option.some.inj ((spared covered measures).symm.trans found)
      subst same
      exact left id old hash covered measures (holds id old hash access bears hashed)

theorem handle_progresses (made : List Container) (formatter : Formatter) (results : Results) (now : Time)
    (due : Timer.Entry Task) (later : List (Timer.Entry Task)) (traces : Results.Traces made results)
    (boxed : ∀ id field, due.task = .measure id → results.field? id = some field → field.box ≠ none)
    (progresses : results.Everywhere (Progresses (due :: later ++ formatter.timers.entries))) :
    (formatter.handle results now due).2.Everywhere
      (Progresses (later ++ (formatter.handle results now due).1.timers.entries)) := by
  have kept := handle_keeps_entries formatter results now due
  refine handle_everywhere made formatter results now due traces _ _ progresses ?_ ?_ ?_
  · intro id field hash found bears hashed covers
    obtain ⟨entry, member, measures⟩ :=
      handle_schedules formatter results now due id field hash found bears hashed covers
    exact .inl (.inr ⟨⟨entry, List.mem_append_right later member, measures⟩, field.in_full_restored hash hashed⟩)
  · intro id field hash found hashed measures before
    obtain ⟨box, drawn⟩ := Option.ne_none_iff_exists'.mp (boxed id field measures found)
    have coherent := Results.traces_coherent made results traces id field found
    rcases before with (awaits | ⟨_, restored⟩) | fits
    · refine .inl (.inl (remaining (·.Covers id) due later _ _ kept awaits ?_))
      exact measures ▸ measure_covers_nothing id id
    · exact .inr (field.restored_measured_fits hash box drawn restored)
    · exact .inr (field.fits_measured_fits hash coherent hashed fits)
  · intro id field hash uncovered unmeasured before
    rcases before with (awaits | ⟨measures, restored⟩) | fits
    · exact .inl (.inl (remaining (·.Covers id) due later _ _ kept awaits uncovered))
    · exact .inl (.inr ⟨remaining (· = .measure id) due later _ _ kept measures unmeasured, restored⟩)
    · exact .inr fits

theorem handle_unsettled (made : List Container) (formatter : Formatter) (results : Results) (now : Time)
    (due : Timer.Entry Task) (later : List (Timer.Entry Task)) (traces : Results.Traces made results)
    (passes : due.task.scope? ≠ none)
    (unsettled : results.Everywhere (Unsettled (due :: later ++ formatter.timers.entries))) :
    (formatter.handle results now due).2.Everywhere
      (Unsettled (later ++ (formatter.handle results now due).1.timers.entries)) := by
  have kept := handle_keeps_entries formatter results now due
  refine handle_everywhere made formatter results now due traces _ _ unsettled ?_ ?_ ?_
  · intro id field hash found bears hashed covers
    obtain ⟨entry, member, measures⟩ :=
      handle_schedules formatter results now due id field hash found bears hashed covers
    exact .inr ⟨⟨entry, List.mem_append_right later member, measures⟩, field.in_full_restored hash hashed⟩
  · intro id field hash _ _ measures _
    rw [measures] at passes
    exact absurd rfl passes
  · intro id field hash uncovered unmeasured before
    rcases before with awaits | ⟨measures, restored⟩
    · exact .inl (remaining (·.Covers id) due later _ _ kept awaits uncovered)
    · exact .inr ⟨remaining (· = .measure id) due later _ _ kept measures unmeasured, restored⟩

-- A measurement takes no pass away.
theorem handle_awaits (made : List Container) (formatter : Formatter) (results : Results) (now : Time)
    (due : Timer.Entry Task) (later : List (Timer.Entry Task)) (traces : Results.Traces made results)
    (measures : due.task.scope? = none)
    (awaits : results.Everywhere fun id _ _ => Awaits (due :: later ++ formatter.timers.entries) id) :
    (formatter.handle results now due).2.Everywhere fun id _ _ =>
      Awaits (later ++ (formatter.handle results now due).1.timers.entries) id := by
  have kept := handle_keeps_entries formatter results now due
  have uncovering (id : FieldId) : ¬ due.task.Covers id := by
    rintro ⟨scope, passes, _⟩
    rw [measures] at passes
    cases passes
  refine handle_everywhere made formatter results now due traces _ _ awaits ?_ ?_ ?_
  · intro id _ _ _ _ _ covers
    exact absurd covers (uncovering id)
  · intro id _ _ _ _ _ before
    exact remaining (·.Covers id) due later _ _ kept before (uncovering id)
  · intro id _ _ _ _ before
    exact remaining (·.Covers id) due later _ _ kept before (uncovering id)

-- A batch of due work.
def handleAll (now : Time) (due : List (Timer.Entry Task)) (formatter : Formatter) (results : Results) :
    Formatter × Results :=
  due.foldl (fun state entry => state.1.handle state.2 now entry) (formatter, results)

theorem handle_all_traces (made : List Container) (distinct : (made.map Container.id).Nodup) (now : Time)
    (due : List (Timer.Entry Task)) (formatter : Formatter) (results : Results)
    (traces : Results.Traces made results) : Results.Traces made (handleAll now due formatter results).2 := by
  refine List.foldlRecOn (motive := fun state : Formatter × Results => Results.Traces made state.2) due _ traces ?_
  intro state before entry _
  exact traces_handle made distinct state.1 state.2 now entry before

theorem handle_all_retexts (now : Time) (due : List (Timer.Entry Task)) (formatter : Formatter) (results : Results) :
    Results.Retexts results (handleAll now due formatter results).2 := by
  refine List.foldlRecOn (motive := fun state : Formatter × Results => Results.Retexts results state.2) due _
    (Results.retexts_refl results) ?_
  intro state before entry _
  exact Results.retexts_trans _ _ _ before (handle_retexts state.1 state.2 now entry)

theorem handle_all_ordered (now : Time) (due : List (Timer.Entry Task)) (formatter : Formatter) (results : Results)
    (ordered : formatter.timers.Ordered) : (handleAll now due formatter results).1.timers.Ordered := by
  refine List.foldlRecOn (motive := fun state : Formatter × Results => state.1.timers.Ordered) due _ ordered ?_
  intro state before entry _
  exact handle_ordered state.1 state.2 now entry before

theorem handle_all_new_entries (now : Time) (due : List (Timer.Entry Task)) (formatter : Formatter)
    (results : Results) (entry : Timer.Entry Task)
    (member : entry ∈ (handleAll now due formatter results).1.timers.entries) :
    entry ∈ formatter.timers.entries ∨
      (entry.deadline = now ∧ ∃ id, entry.task = .measure id ∧ id.container ∈ results.containers.map Container.id) := by
  induction due generalizing formatter results with
  | nil => exact .inl member
  | cons head later ih =>
      rcases ih _ _ member with before | ⟨time, id, task, shown⟩
      · exact handle_new_entries formatter results now head entry before
      · exact .inr ⟨time, id, task, (handle_retexts formatter results now head).ids ▸ shown⟩

theorem handle_all_progresses (made : List Container) (distinct : (made.map Container.id).Nodup) (now : Time)
    (due : List (Timer.Entry Task)) (formatter : Formatter) (results : Results)
    (traces : Results.Traces made results)
    (boxed : ∀ entry ∈ due, ∀ id field, entry.task = .measure id → results.field? id = some field →
      field.box ≠ none)
    (progresses : results.Everywhere (Progresses (due ++ formatter.timers.entries))) :
    (handleAll now due formatter results).2.Everywhere
      (Progresses (handleAll now due formatter results).1.timers.entries) := by
  induction due generalizing formatter results with
  | nil => exact progresses
  | cons entry later ih =>
      refine ih _ _ (traces_handle made distinct formatter results now entry traces) ?_ ?_
      · intro other waiting id field measures found
        obtain ⟨old, access, _, box⟩ := (handle_retexts formatter results now entry).fields id field found
        exact box ▸ boxed other (List.mem_cons_of_mem _ waiting) id old measures access
      · exact handle_progresses made formatter results now entry later traces (boxed entry (by simp)) progresses

theorem passes_unsettled (made : List Container) (distinct : (made.map Container.id).Nodup) (now : Time)
    (due : List (Timer.Entry Task)) (formatter : Formatter) (results : Results)
    (traces : Results.Traces made results) (passes : ∀ entry ∈ due, entry.task.scope? ≠ none)
    (unsettled : results.Everywhere (Unsettled (due ++ formatter.timers.entries))) :
    (handleAll now due formatter results).2.Everywhere
      (Unsettled (handleAll now due formatter results).1.timers.entries) := by
  induction due generalizing formatter results with
  | nil => exact unsettled
  | cons entry later ih =>
      refine ih _ _ (traces_handle made distinct formatter results now entry traces) ?_ ?_
      · exact fun other waiting => passes other (List.mem_cons_of_mem _ waiting)
      · exact handle_unsettled made formatter results now entry later traces (passes entry (by simp)) unsettled

-- Measurements come first, while passes over all hashes are still to come; the first pass ends them.
theorem handle_all_unsettled (made : List Container) (distinct : (made.map Container.id).Nodup) (now : Time)
    (due : List (Timer.Entry Task)) (formatter : Formatter) (results : Results)
    (traces : Results.Traces made results)
    (first : due.Pairwise fun a b => b.task.scope? = none → a.task.scope? = none)
    (awaits : results.Everywhere fun id _ _ => Awaits (due ++ formatter.timers.entries) id) :
    (handleAll now due formatter results).2.Everywhere
      (Unsettled (handleAll now due formatter results).1.timers.entries) := by
  induction due generalizing formatter results with
  | nil => exact fun id field hash found bears hashed => .inl (awaits id field hash found bears hashed)
  | cons entry later ih =>
      obtain ⟨leads, rest⟩ := List.pairwise_cons.mp first
      have handled := traces_handle made distinct formatter results now entry traces
      by_cases measures : entry.task.scope? = none
      · exact ih _ _ handled rest (handle_awaits made formatter results now entry later traces measures awaits)
      · refine passes_unsettled made distinct now later _ _ handled ?_ ?_
        · exact fun other waiting measured => measures (leads other waiting measured)
        · refine handle_unsettled made formatter results now entry later traces measures ?_
          exact fun id field hash found bears hashed => .inl (awaits id field hash found bears hashed)

end Formatter
end ChainExplorer
