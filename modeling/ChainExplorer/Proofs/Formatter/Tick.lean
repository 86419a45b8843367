import ChainExplorer.Proofs.Formatter.Settling

set_option autoImplicit false

namespace ChainExplorer.Formatter

structure Timely (formatter : Formatter) (now : Time) : Prop where
  ordered : formatter.timers.Ordered
  reached : ∀ entry ∈ formatter.timers.entries, entry.task.scope? = none → entry.deadline ≤ now
  first : ∀ measurement ∈ formatter.timers.entries, ∀ pass ∈ formatter.timers.entries,
    measurement.task.scope? = none → pass.task.scope? ≠ none → measurement.before pass

theorem start_timely (settleDelay now : Time) : (withDelay settleDelay).Timely now :=
  ⟨Timer.empty_ordered, fun _ member => (nomatch member), fun _ member => (nomatch member)⟩

theorem timely_later (formatter : Formatter) (now later : Time) (timely : formatter.Timely now)
    (onward : now ≤ later) : formatter.Timely later :=
  ⟨timely.ordered, fun entry member measures => Nat.le_trans (timely.reached entry member measures) onward,
    timely.first⟩

theorem timely_fewer (before after : Formatter) (now : Time) (timely : before.Timely now)
    (kept : after.timers.entries.Sublist before.timers.entries) (next : after.timers.nextId = before.timers.nextId) :
    after.Timely now := by
  refine ⟨Timer.fewer_ordered _ _ timely.ordered kept next, ?_, ?_⟩
  · exact fun entry member => timely.reached entry (kept.subset member)
  · exact fun measurement here pass there => timely.first measurement (kept.subset here) pass (kept.subset there)

theorem cancel_global_fewer (formatter : Formatter) :
    formatter.cancelGlobal.timers.entries.Sublist formatter.timers.entries ∧
      formatter.cancelGlobal.timers.nextId = formatter.timers.nextId := by
  unfold cancelGlobal
  cases formatter.global with
  | none => exact ⟨List.Sublist.refl _, rfl⟩
  | some timer => exact Timer.cancel_sublist formatter.timers timer

-- A pass that is scheduled now comes after all measurements: none of them is due later, and all are older.
theorem schedule_timely (before after : Formatter) (now delay : Time) (task : Task) (timely : before.Timely now)
    (passes : task.scope? ≠ none) (scheduled : after.timers = (before.timers.schedule now delay task).1) :
    after.Timely now := by
  have mem (entry : Timer.Entry Task) : entry ∈ after.timers.entries ↔
      entry = ⟨now + delay, before.timers.nextId, task⟩ ∨ entry ∈ before.timers.entries := by
    rw [scheduled]
    exact Timer.mem_schedule _ _ _ _ _
  refine ⟨scheduled ▸ Timer.schedule_ordered _ _ _ _ timely.ordered, ?_, ?_⟩
  · intro entry member measures
    rcases (mem entry).mp member with new | old
    · subst new
      exact absurd measures passes
    · exact timely.reached entry old measures
  · intro measurement here pass there measures passing
    rcases (mem measurement).mp here with new | old
    · subst new
      exact absurd measures passes
    · rcases (mem pass).mp there with new | queued
      · subst new
        have reached := timely.reached measurement old measures
        have older := timely.ordered.fresh measurement old
        rw [Timer.before_iff]
        dsimp only
        lia
      · exact timely.first measurement old pass queued measures passing

theorem request_timely (formatter : Formatter) (now : Time) (scope : Option ContainerId)
    (timely : formatter.Timely now) : (formatter.request now scope).1.Timely now := by
  cases scope with
  | none =>
      obtain ⟨kept, next⟩ := cancel_global_fewer formatter
      have ground := timely_fewer formatter formatter.cancelGlobal now timely kept next
      exact schedule_timely _ _ now _ .globalPass ground (by simp [Task.scope?]) rfl
  | some container =>
      exact schedule_timely _ _ now _ (.containerPass container) timely (by simp [Task.scope?]) rfl

theorem request_new_entries (formatter : Formatter) (now : Time) (scope : Option ContainerId)
    (entry : Timer.Entry Task) (member : entry ∈ (formatter.request now scope).1.timers.entries) :
    entry ∈ formatter.timers.entries ∨ entry.task.scope? ≠ none := by
  cases scope with
  | none =>
      rcases (Timer.mem_schedule _ _ _ _ _).mp member with new | old
      · subst new
        exact .inr (by simp [Task.scope?])
      · exact .inl ((cancel_global_fewer formatter).1.subset old)
  | some container =>
      rcases (Timer.mem_schedule _ _ _ _ _).mp member with new | old
      · subst new
        exact .inr (by simp [Task.scope?])
      · exact .inl old

-- A request for a pass over all fields takes back the one that was pending, and is one itself.
theorem request_awaits (formatter : Formatter) (now : Time) (scope : Option ContainerId) (id : FieldId)
    (inScope : scope = none ∨ scope = some id.container) :
    Awaits (formatter.request now scope).1.timers.entries id := by
  cases scope with
  | none => exact ⟨_, (Timer.mem_schedule _ _ _ _ _).mpr (.inl rfl), none, rfl, inScope⟩
  | some container => exact ⟨_, (Timer.mem_schedule _ _ _ _ _).mpr (.inl rfl), some container, rfl, inScope⟩

theorem request_container_keeps (formatter : Formatter) (now : Time) (container : ContainerId)
    (entry : Timer.Entry Task) (member : entry ∈ formatter.timers.entries) :
    entry ∈ (formatter.request now (some container)).1.timers.entries :=
  (Timer.mem_schedule _ _ _ _ _).mpr (.inr member)

-- A pass over each of some containers.
def requestEach (formatter : Formatter) (now : Time) (containers : List ContainerId) : Formatter :=
  containers.foldl (fun formatter id => (formatter.request now (some id)).1) formatter

theorem request_each_timely (formatter : Formatter) (now : Time) (containers : List ContainerId)
    (timely : formatter.Timely now) : (formatter.requestEach now containers).Timely now := by
  refine List.foldlRecOn (motive := fun after : Formatter => after.Timely now) containers _ timely ?_
  intro after before container _
  exact request_timely after now (some container) before

theorem request_each_new_entries (formatter : Formatter) (now : Time) (containers : List ContainerId)
    (entry : Timer.Entry Task) (member : entry ∈ (formatter.requestEach now containers).timers.entries) :
    entry ∈ formatter.timers.entries ∨ entry.task.scope? ≠ none := by
  refine List.foldlRecOn (motive := fun after : Formatter => entry ∈ after.timers.entries →
    entry ∈ formatter.timers.entries ∨ entry.task.scope? ≠ none) containers _ .inl ?_ member
  intro after known container _ queued
  rcases request_new_entries after now (some container) entry queued with before | passes
  · exact known before
  · exact .inr passes

theorem request_each_keeps (formatter : Formatter) (now : Time) (containers : List ContainerId)
    (entry : Timer.Entry Task) (member : entry ∈ formatter.timers.entries) :
    entry ∈ (formatter.requestEach now containers).timers.entries := by
  refine List.foldlRecOn (motive := fun after : Formatter => entry ∈ after.timers.entries) containers _ member ?_
  intro after queued container _
  exact request_container_keeps after now container entry queued

theorem request_each_awaits (formatter : Formatter) (now : Time) (containers : List ContainerId) (id : FieldId)
    (member : id.container ∈ containers) : Awaits (formatter.requestEach now containers).timers.entries id := by
  induction containers generalizing formatter with
  | nil => cases member
  | cons container rest ih =>
      rcases List.mem_cons.mp member with here | later
      · obtain ⟨entry, queued, covers⟩ := request_awaits formatter now (some container) id (.inr (congrArg some here.symm))
        exact ⟨entry, request_each_keeps _ now rest entry queued, covers⟩
      · exact ih _ later

theorem tick_partition (formatter : Formatter) (now : Time) :
    (formatter.takeDue now).2 ++ (formatter.takeDue now).1.timers.entries = formatter.timers.entries :=
  Timer.take_due_partition formatter.timers now

theorem tick_traces (made : List Container) (distinct : (made.map Container.id).Nodup) (formatter : Formatter)
    (results : Results) (now : Time) (traces : Results.Traces made results) :
    Results.Traces made (formatter.tick results now).1.2 :=
  handle_all_traces made distinct now _ _ results traces

theorem tick_retexts (formatter : Formatter) (results : Results) (now : Time) :
    Results.Retexts results (formatter.tick results now).1.2 :=
  handle_all_retexts now _ _ results

-- What is left is due later, and what is new is due at once.
theorem tick_entries (formatter : Formatter) (results : Results) (now : Time)
    (ordered : formatter.timers.Ordered) (entry : Timer.Entry Task)
    (member : entry ∈ (formatter.tick results now).1.1.timers.entries) :
    (entry ∈ formatter.timers.entries ∧ now < entry.deadline) ∨
      (entry.deadline = now ∧ ∃ id, entry.task = .measure id ∧
        id.container ∈ results.containers.map Container.id) := by
  rcases handle_all_new_entries now _ _ results entry member with left | new
  · refine .inl ⟨?_, Timer.take_due_left formatter.timers now ordered entry left⟩
    rw [← tick_partition formatter now]
    exact List.mem_append_right _ left
  · exact .inr new

theorem tick_timely (formatter : Formatter) (results : Results) (last now : Time) (timely : formatter.Timely last)
    (onward : last ≤ now) : (formatter.tick results now).1.1.Timely now := by
  have entries := tick_entries formatter results now timely.ordered
  refine ⟨?_, ?_, ?_⟩
  · exact handle_all_ordered now _ _ results (Timer.take_due_ordered formatter.timers now timely.ordered)
  · intro entry member measures
    rcases entries entry member with ⟨old, _⟩ | ⟨time, _⟩
    · exact Nat.le_trans (timely.reached entry old measures) onward
    · exact Nat.le_of_eq time
  · intro measurement here pass there measures passes
    rcases entries pass there with ⟨_, later⟩ | ⟨_, id, measure, _⟩
    · have reached : measurement.deadline ≤ now := by
        rcases entries measurement here with ⟨old, _⟩ | ⟨time, _⟩
        · exact Nat.le_trans (timely.reached measurement old measures) onward
        · exact Nat.le_of_eq time
      exact (Timer.before_iff measurement pass).mpr (.inl (Nat.lt_of_le_of_lt reached later))
    · rw [measure] at passes
      exact absurd rfl passes

-- A batch is a part of the queue from its start, and so in the same order.
theorem due_measures_first (formatter : Formatter) (last now : Time) (timely : formatter.Timely last) :
    (formatter.takeDue now).2.Pairwise fun a b => b.task.scope? = none → a.task.scope? = none := by
  have prefixed : (formatter.takeDue now).2.Sublist formatter.timers.entries := by
    rw [← tick_partition formatter now]
    exact List.sublist_append_left _ _
  refine (timely.ordered.sorted.sublist prefixed).imp_of_mem ?_
  intro a b first second before measures
  by_cases passes : a.task.scope? = none
  · exact passes
  · have back := timely.first b (prefixed.subset second) a (prefixed.subset first) measures passes
    exact absurd back (Timer.before_asymm a b before)

theorem tick_progresses (made : List Container) (distinct : (made.map Container.id).Nodup) (formatter : Formatter)
    (results : Results) (now : Time) (traces : Results.Traces made results)
    (boxed : ∀ entry ∈ formatter.timers.entries, ∀ id field, entry.task = .measure id →
      results.field? id = some field → field.box ≠ none)
    (progresses : results.Everywhere (Progresses formatter.timers.entries)) :
    (formatter.tick results now).1.2.Everywhere (Progresses (formatter.tick results now).1.1.timers.entries) := by
  refine handle_all_progresses made distinct now (formatter.takeDue now).2 (formatter.takeDue now).1 results traces
    ?_ ?_
  · intro entry member
    refine boxed entry ?_
    rw [← tick_partition formatter now]
    exact List.mem_append_left _ member
  · rwa [tick_partition formatter now]

theorem tick_unsettled (made : List Container) (distinct : (made.map Container.id).Nodup) (formatter : Formatter)
    (results : Results) (last now : Time) (traces : Results.Traces made results) (timely : formatter.Timely last)
    (awaits : results.Everywhere fun id _ _ => Awaits formatter.timers.entries id) :
    (formatter.tick results now).1.2.Everywhere (Unsettled (formatter.tick results now).1.1.timers.entries) := by
  have first := due_measures_first formatter last now timely
  refine handle_all_unsettled made distinct now (formatter.takeDue now).2 (formatter.takeDue now).1 results traces
    first ?_
  rwa [tick_partition formatter now]

end ChainExplorer.Formatter
