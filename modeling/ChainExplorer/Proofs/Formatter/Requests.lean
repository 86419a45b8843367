import ChainExplorer.Proofs.Formatter.Ownership
import ChainExplorer.Proofs.Timer.Ledger

set_option autoImplicit false

namespace ChainExplorer.Formatter

-- The delay stays as it was set, and numbers are used up.
structure Continues (before after : Formatter) : Prop where
  delay : after.settleDelay = before.settleDelay
  next : before.timers.nextId ≤ after.timers.nextId

theorem continues_refl (formatter : Formatter) : Continues formatter formatter := ⟨rfl, Nat.le_refl _⟩

theorem continues_trans (a b c : Formatter) (first : Continues a b) (second : Continues b c) : Continues a c :=
  ⟨second.delay.trans first.delay, Nat.le_trans first.next second.next⟩

theorem own_continues (formatter : Formatter) (now delay : Time) (task : Task) :
    Continues formatter (formatter.own now delay task).1 :=
  ⟨rfl, Nat.le_succ _⟩

theorem cancel_global_continues (formatter : Formatter) : Continues formatter formatter.cancelGlobal := by
  refine ⟨?_, Nat.le_of_eq (cancel_global_fewer formatter).2.symm⟩
  unfold cancelGlobal
  cases formatter.global <;> rfl

theorem request_continues (formatter : Formatter) (now : Time) (scope : Option ContainerId) :
    Continues formatter (formatter.request now scope).1 := by
  cases scope with
  | none =>
      refine continues_trans _ _ _ (cancel_global_continues formatter) ?_
      exact ⟨rfl, Nat.le_succ _⟩
  | some container => exact own_continues formatter now _ _

theorem request_each_continues (formatter : Formatter) (now : Time) (containers : List ContainerId) :
    Continues formatter (formatter.requestEach now containers) := by
  refine List.foldlRecOn (motive := Continues formatter) containers _ (continues_refl formatter) ?_
  intro after before container _
  exact continues_trans _ _ _ before (request_continues after now (some container))

theorem run_pass_continues (formatter : Formatter) (results : Results) (now : Time) (scope : Option ContainerId) :
    Continues formatter (formatter.runPass results now scope).formatter := by
  refine List.foldlRecOn (motive := fun pass : Pass => Continues formatter pass.formatter) _ _
    (continues_refl formatter) ?_
  intro pass before id _
  unfold Pass.visit
  split
  · exact before
  · exact continues_trans _ _ _ before (own_continues _ now 0 _)

theorem handle_continues (formatter : Formatter) (results : Results) (now : Time) (due : Timer.Entry Task) :
    Continues formatter (formatter.handle results now due).1 := by
  unfold handle
  split
  · refine continues_trans _ _ _ ?_ (run_pass_continues _ results now none)
    split <;> exact ⟨rfl, Nat.le_refl _⟩
  · refine continues_trans _ _ _ ?_ (run_pass_continues _ results now _)
    exact ⟨rfl, Nat.le_refl _⟩
  · exact ⟨rfl, Nat.le_refl _⟩

theorem tick_continues (formatter : Formatter) (results : Results) (now : Time) :
    Continues formatter (formatter.tick results now).1.1 := by
  refine List.foldlRecOn (motive := fun state : Formatter × Results => Continues formatter state.1) _ _
    ⟨rfl, Nat.le_refl _⟩ ?_
  intro state before due _
  exact continues_trans _ _ _ before (handle_continues state.1 state.2 now due)

theorem dispose_continues (formatter : Formatter) : Continues formatter formatter.dispose := by
  refine continues_trans _ _ _ (cancel_global_continues formatter) ⟨rfl, ?_⟩
  refine List.foldlRecOn (motive := fun timers : Timer.Queue Task => formatter.cancelGlobal.timers.nextId ≤ timers.nextId)
    _ _ (Nat.le_refl _) ?_
  intro timers before id _
  exact Nat.le_trans before (Nat.le_of_eq (Timer.cancel_sublist timers id).2.symm)

-- The passes that stand in the queue after a request over each of some containers.
def askedEach (formatter : Formatter) (now : Time) : List ContainerId → List (Timer.Entry Task)
  | [] => []
  | container :: rest =>
      ⟨now + formatter.settleDelay, (formatter.request now (some container)).2, .containerPass container⟩ ::
        (formatter.request now (some container)).1.askedEach now rest

theorem asked_each_tasks (formatter : Formatter) (now : Time) (containers : List ContainerId) :
    (formatter.askedEach now containers).map (fun entry => (entry.deadline, entry.task)) =
      containers.map fun container => (now + formatter.settleDelay, .containerPass container) := by
  induction containers generalizing formatter with
  | nil => rfl
  | cons container rest ih => exact congrArg _ (ih _)

theorem asked_each_pass (formatter : Formatter) (now : Time) (containers : List ContainerId) (entry : Timer.Entry Task)
    (member : entry ∈ formatter.askedEach now containers) :
    entry.deadline = now + formatter.settleDelay ∧ ∃ container, entry.task = .containerPass container := by
  have listed : (entry.deadline, entry.task) ∈ containers.map fun container =>
      (now + formatter.settleDelay, Task.containerPass container) := by
    rw [← asked_each_tasks formatter now containers]
    exact List.mem_map_of_mem member
  obtain ⟨container, _, same⟩ := List.mem_map.mp listed
  exact ⟨(congrArg Prod.fst same).symm, container, (congrArg Prod.snd same).symm⟩

theorem asked_each_numbers (formatter : Formatter) (now : Time) (containers : List ContainerId) :
    (formatter.askedEach now containers).map Timer.Entry.id =
        List.range' formatter.timers.nextId containers.length ∧
      (formatter.requestEach now containers).timers.nextId = formatter.timers.nextId + containers.length := by
  induction containers generalizing formatter with
  | nil => exact ⟨rfl, rfl⟩
  | cons container rest ih =>
      obtain ⟨numbers, next⟩ := ih (formatter.request now (some container)).1
      have used : (formatter.request now (some container)).1.timers.nextId = formatter.timers.nextId + 1 := rfl
      refine ⟨?_, next.trans ?_⟩
      · rw [askedEach, List.map_cons, numbers, used, List.length_cons, List.range'_succ]
        rfl
      · rw [used, List.length_cons]
        lia

theorem request_number (formatter : Formatter) (now : Time) :
    (formatter.request now none).2 = formatter.timers.nextId ∧
      (formatter.request now none).1.timers.nextId = formatter.timers.nextId + 1 := by
  obtain ⟨_, next⟩ := cancel_global_fewer formatter
  exact ⟨next, congrArg (· + 1) next⟩

theorem request_each_entries (formatter : Formatter) (now : Time) (containers : List ContainerId)
    (entry : Timer.Entry Task) :
    entry ∈ (formatter.requestEach now containers).timers.entries ↔
      entry ∈ formatter.askedEach now containers ∨ entry ∈ formatter.timers.entries := by
  induction containers generalizing formatter with
  | nil => simp [requestEach, askedEach]
  | cons container rest ih =>
      refine (ih _).trans ?_
      have added := Timer.mem_schedule formatter.timers now formatter.settleDelay (.containerPass container) entry
      rw [askedEach, List.mem_cons, or_assoc, or_left_comm]
      exact or_congr_right added

-- Cancelling by the one number that is remembered takes every pass over all fields away.
theorem cancel_global_entries (formatter : Formatter) (accountable : formatter.Accountable []) :
    formatter.cancelGlobal.timers.entries =
      formatter.timers.entries.filter fun entry => !decide (entry.task = .globalPass) := by
  have attributed := accountable.attributed
  unfold cancelGlobal
  cases named : formatter.global with
  | none =>
      refine (List.filter_eq_self.mpr fun entry member => ?_).symm
      have other : entry.task ≠ .globalPass := by
        intro task
        have remembered := global_entry _ _ _ attributed entry member task
        rw [named] at remembered
        cases remembered
      simpa using other
  | some timer =>
      dsimp only
      rw [(Timer.cancel_entries _ accountable.consistent timer).1]
      refine List.filter_congr fun entry member => ?_
      by_cases task : entry.task = .globalPass
      · have remembered := global_entry _ _ _ attributed entry member task
        rw [named] at remembered
        simp [task, Option.some.inj remembered]
      · have owned := owned_entry _ _ _ attributed entry member task
        have different : entry.id ≠ timer := by
          rintro rfl
          exact global_not_owned _ _ _ attributed _ named owned
        simp [task, different]

theorem request_entries (formatter : Formatter) (accountable : formatter.Accountable []) (now : Time)
    (entry : Timer.Entry Task) :
    entry ∈ (formatter.request now none).1.timers.entries ↔
      entry = ⟨now + formatter.settleDelay, (formatter.request now none).2, .globalPass⟩ ∨
        (entry ∈ formatter.timers.entries ∧ entry.task ≠ .globalPass) := by
  refine (Timer.mem_schedule _ _ _ _ _).trans ?_
  rw [(cancel_global_continues formatter).delay, cancel_global_entries formatter accountable, List.mem_filter]
  simp only [Bool.not_eq_true', decide_eq_false_iff_not]
  rfl

-- The new pass is the only one over all fields, and what else is pending stays.
theorem request_all_entries (formatter : Formatter) (accountable : formatter.Accountable []) (now : Time) :
    let entries := (formatter.request now none).1.timers.entries
    (entries.filter fun entry => entry.task = .globalPass) =
        [⟨now + formatter.settleDelay, formatter.timers.nextId, .globalPass⟩] ∧
      (entries.filter fun entry => entry.task ≠ .globalPass) =
        formatter.timers.entries.filter fun entry => entry.task ≠ .globalPass := by
  intro entries
  let others := formatter.timers.entries.filter fun entry => !decide (entry.task = .globalPass)
  let pass : Timer.Entry Task := ⟨now + formatter.settleDelay, formatter.timers.nextId, .globalPass⟩
  have made : entries = Timer.insertEntry pass others := by
    rw [show others = _ from (cancel_global_entries formatter accountable).symm,
      show pass = ⟨now + formatter.cancelGlobal.settleDelay, formatter.cancelGlobal.timers.nextId, .globalPass⟩ by
        rw [(cancel_global_continues formatter).delay, (cancel_global_fewer formatter).2]]
    rfl
  have listed : entries.Perm (pass :: others) := made ▸ Timer.insert_entry_perm pass others
  constructor
  · refine List.perm_singleton.mp ((listed.filter _).trans (List.Perm.of_eq ?_))
    rw [List.filter_cons_of_pos (by simp [pass]), List.filter_filter]
    simp [pass]
  · have same : others.filter (fun entry => entry.task ≠ .globalPass) = others := by simp [others]
    have size := (listed.filter fun entry => entry.task ≠ .globalPass).length_eq
    rw [List.filter_cons_of_neg (by simp [pass])] at size
    have sublist : others.Sublist entries := made ▸ Timer.insert_entry_sublist pass others
    have inside := sublist.filter fun entry => entry.task ≠ .globalPass
    rw [← inside.eq_of_length size.symm, same]
    simp [others]

theorem handle_all_keeps_entries (now : Time) (due : List (Timer.Entry Task)) (formatter : Formatter)
    (results : Results) (entry : Timer.Entry Task) (member : entry ∈ formatter.timers.entries) :
    entry ∈ (handleAll now due formatter results).1.timers.entries := by
  refine List.foldlRecOn (motive := fun state : Formatter × Results => entry ∈ state.1.timers.entries) due _ member ?_
  intro state queued due _
  exact handle_keeps_entries state.1 state.2 now due entry queued

theorem tick_due (formatter : Formatter) (results : Results) (now : Time) (ordered : formatter.timers.Ordered) :
    (formatter.tick results now).2 = formatter.timers.entries.filter fun entry => entry.deadline ≤ now :=
  (Timer.take_due_split formatter.timers now ordered).1

theorem tick_passes (formatter : Formatter) (results : Results) (now : Time) (ordered : formatter.timers.Ordered)
    (entry : Timer.Entry Task) (passes : entry.task.scope? ≠ none) :
    entry ∈ (formatter.tick results now).1.1.timers.entries ↔
      entry ∈ formatter.timers.entries ∧ now < entry.deadline := by
  constructor
  · intro member
    rcases tick_entries formatter results now ordered entry member with waits | ⟨_, id, measures, _⟩
    · exact waits
    · rw [measures] at passes
      exact absurd rfl passes
  · rintro ⟨queued, later⟩
    refine handle_all_keeps_entries now _ _ results entry ?_
    have left := (Timer.take_due_split formatter.timers now ordered).2
    have waits : entry ∈ (formatter.timers.takeDue now).1.entries := by
      rw [left]
      exact List.mem_filter.mpr ⟨queued, by simpa using later⟩
    exact waits

section GivenAway

variable (given : List (Timer.Entry Task))

theorem run_pass_gave (formatter : Formatter) (results : Results) (now : Time) (scope : Option ContainerId)
    (gave : formatter.timers.Gave given) : (formatter.runPass results now scope).formatter.timers.Gave given := by
  refine List.foldlRecOn (motive := fun pass : Pass => pass.formatter.timers.Gave given) _ _ gave ?_
  intro pass before id _
  unfold Pass.visit
  split
  · exact before
  · exact Timer.schedule_gave _ given before now 0 _

theorem handle_gave (formatter : Formatter) (results : Results) (now : Time) (due : Timer.Entry Task)
    (gave : formatter.timers.Gave given) : (formatter.handle results now due).1.timers.Gave given := by
  rcases task_pass_or_measure due.task with ⟨scope, passes⟩ | ⟨id, measures⟩
  · obtain ⟨ground, timers, same⟩ := handle_pass formatter results now due scope passes
    rw [same]
    exact run_pass_gave given ground results now scope (timers ▸ gave)
  · rw [(handle_measure formatter results now due id measures).1]
    exact gave

theorem tick_gave (formatter : Formatter) (results : Results) (now : Time) (gave : formatter.timers.Gave given) :
    (formatter.tick results now).1.1.timers.Gave (given ++ (formatter.tick results now).2) := by
  have taken := Timer.take_due_gave formatter.timers given gave now
  refine List.foldlRecOn (motive := fun state : Formatter × Results =>
    state.1.timers.Gave (given ++ (formatter.timers.takeDue now).2)) _ _ taken ?_
  intro state before due _
  exact handle_gave _ state.1 state.2 now due before

theorem cancel_global_gave (formatter : Formatter) (gave : formatter.timers.Gave given) :
    formatter.cancelGlobal.timers.Gave given := by
  unfold cancelGlobal
  cases formatter.global with
  | none => exact gave
  | some timer => exact Timer.cancel_gave _ given gave timer

theorem request_gave (formatter : Formatter) (now : Time) (scope : Option ContainerId)
    (gave : formatter.timers.Gave given) : (formatter.request now scope).1.timers.Gave given := by
  cases scope with
  | none => exact Timer.schedule_gave _ given (cancel_global_gave given formatter gave) now _ _
  | some container => exact Timer.schedule_gave _ given gave now _ _

theorem request_each_gave (formatter : Formatter) (now : Time) (containers : List ContainerId)
    (gave : formatter.timers.Gave given) : (formatter.requestEach now containers).timers.Gave given := by
  refine List.foldlRecOn (motive := fun after : Formatter => after.timers.Gave given) containers _ gave ?_
  intro after before container _
  exact request_gave given after now (some container) before

theorem dispose_gave (formatter : Formatter) (gave : formatter.timers.Gave given) :
    formatter.dispose.timers.Gave given := by
  refine List.foldlRecOn (motive := fun timers : Timer.Queue Task => timers.Gave given) _ _
    (cancel_global_gave given formatter gave) ?_
  intro timers before id _
  exact Timer.cancel_gave timers given before id

end GivenAway

end ChainExplorer.Formatter
