import ChainExplorer.Proofs.Explorer.Dropped
import ChainExplorer.Proofs.Explorer.Targets

set_option autoImplicit false

namespace ChainExplorer

-- What is pending has not been given away.
theorem Timer.gave_apart {α : Type} (queue : Queue α) (given : List (Entry α)) (gave : queue.Gave given)
    (entry : Entry α) (pending : entry ∈ queue.entries) : entry.id ∉ given.map Entry.id := by
  obtain ⟨log, accounts, rfl⟩ := gave
  exact ((accounts.pending entry).mp pending).2.1

namespace Formatter

theorem measurements_schedule_nothing (now : Time) (due : List (Timer.Entry Task)) (formatter : Formatter)
    (results : Results) (measures : ∀ entry ∈ due, entry.task.scope? = none) :
    (handleAll now due formatter results).1.timers = formatter.timers := by
  induction due generalizing formatter results with
  | nil => rfl
  | cons entry later ih =>
      obtain ⟨first, rest⟩ := List.forall_mem_cons.mp measures
      rcases task_pass_or_measure entry.task with ⟨scope, passes⟩ | ⟨id, measure⟩
      · rw [passes] at first
        cases first
      · exact (ih _ _ rest).trans (handle_measure formatter results now entry id measure).1

-- Where all is due, nothing of it is left, and what is new is a measurement.
theorem tick_leaves_measurements (formatter : Formatter) (results : Results) (now : Time)
    (ordered : formatter.timers.Ordered) (due : ∀ entry ∈ formatter.timers.entries, entry.deadline ≤ now) :
    ∀ entry ∈ (formatter.tick results now).1.1.timers.entries, entry.deadline = now ∧ entry.task.scope? = none := by
  intro entry member
  rcases tick_entries formatter results now ordered entry member with ⟨old, later⟩ | ⟨time, id, measures, _⟩
  · exact absurd later (Nat.not_lt_of_le (due entry old))
  · rw [measures]
    exact ⟨time, rfl⟩

theorem tick_empties (formatter : Formatter) (results : Results) (now : Time) (ordered : formatter.timers.Ordered)
    (due : ∀ entry ∈ formatter.timers.entries, entry.deadline ≤ now)
    (measures : ∀ entry ∈ formatter.timers.entries, entry.task.scope? = none) :
    (formatter.tick results now).1.1.timers.entries = [] := by
  have taken : ∀ entry ∈ (formatter.takeDue now).2, entry.task.scope? = none := by
    intro entry member
    refine measures entry ?_
    rw [← tick_partition formatter now]
    exact List.mem_append_left _ member
  have handled := measurements_schedule_nothing now _ (formatter.takeDue now).1 results taken
  have left := (Timer.take_due_split formatter.timers now ordered).2
  refine (congrArg Timer.Queue.entries handled).trans (left.trans (List.filter_eq_nil_iff.mpr ?_))
  intro entry member
  simpa using due entry member

theorem handle_all_gave (given : List (Timer.Entry Task)) (now : Time) (due : List (Timer.Entry Task))
    (formatter : Formatter) (results : Results) (gave : formatter.timers.Gave given) :
    (handleAll now due formatter results).1.timers.Gave given := by
  refine List.foldlRecOn (motive := fun state : Formatter × Results => state.1.timers.Gave given) due _ gave ?_
  intro state before entry _
  exact handle_gave given state.1 state.2 now entry before

end Formatter

namespace Explorer

theorem advance_quiet (explorer : Explorer) (now : Time) (quiet : explorer.inbox = [])
    (noticed : explorer.view.rendered = []) :
    (explorer.advance now).1.formatter = (explorer.formatter.tick explorer.view.results now).1.1 := by
  have unanswered : explorer.answered = explorer := by rw [answered, quiet, List.foldl_nil]
  have unasked : explorer.requested now = explorer.formatter := by
    rw [requested, unanswered, noticed]
    rfl
  have ticked := act_formatter explorer (.advance now)
  rwa [reformat, unanswered, unasked] at ticked

-- An advance has emptied the channel and noted whether it is closed.
theorem advance_receives_all (explorer : Explorer) (now : Time) :
    (explorer.advance now).1.inbox = [] ∧
      ((explorer.advance now).1.closeNoted || !(explorer.advance now).1.connected) =
        (explorer.advance now).1.closeNoted := by
  have noted : (explorer.advance now).1.closeNoted =
      (explorer.receiveAll.closeNoted || !(explorer.advance now).1.connected) := rfl
  rw [noted, Bool.or_assoc, Bool.or_self]
  exact ⟨rfl, rfl⟩

theorem advance_rests (explorer : Explorer) (now : Time) (quiet : explorer.inbox = [])
    (noticed : explorer.view.rendered = []) (noted : (explorer.closeNoted || !explorer.connected) = explorer.closeNoted)
    (idle : explorer.formatter.timers.entries = []) : explorer.advance now = (explorer, false) := by
  have dropped := advance_drops explorer now noticed (by simp [idle]) (by simp [quiet])
  rw [noted, if_pos quiet, quiet] at dropped
  rw [dropped]
  simp [← quiet]

-- The first advance leaves measurements alone, they are due by the second, and after that nothing is left to do.
theorem advances_settle (explorer : Explorer) (structured : explorer.Structured)
    (accountable : explorer.formatter.Accountable []) (first second third : Time) (onward : first ≤ second)
    (quiet : explorer.inbox = []) (due : ∀ entry ∈ explorer.formatter.timers.entries, entry.deadline ≤ first) :
    let settled := ((explorer.advance first).1.advance second).1
    settled.formatter.timers.entries = [] ∧ (∀ id, ¬ settled.formatter.timers.isPending id) ∧
      settled.advance third = (settled, false) := by
  have measuring := Formatter.tick_leaves_measurements explorer.formatter explorer.view.results first
    accountable.consistent.ordered due
  rw [← advance_quiet explorer first quiet structured.noticed] at measuring
  have once : (explorer.advance first).1.Structured := act_structured explorer structured (.advance first)
  have counted : (explorer.advance first).1.formatter.Accountable [] :=
    act_accountable explorer accountable (.advance first)
  have received := (advance_receives_all explorer first).1
  generalize (explorer.advance first).1 = middle at measuring once counted received
  intro settled
  have twice : settled.Structured := act_structured middle once (.advance second)
  have consistent := (act_accountable middle counted (.advance second)).consistent
  have empty : settled.formatter.timers.entries = [] := by
    rw [advance_quiet middle second received once.noticed]
    refine Formatter.tick_empties _ _ second counted.consistent.ordered ?_ ?_
    · exact fun entry member => Nat.le_trans (Nat.le_of_eq (measuring entry member).1) onward
    · exact fun entry member => (measuring entry member).2
  obtain ⟨none, noted⟩ := advance_receives_all middle second
  refine ⟨empty, ?_, advance_rests settled third none twice.noticed noted empty⟩
  intro id
  rw [Timer.pending_iff settled.formatter.timers consistent, empty]
  exact List.not_mem_nil

theorem taken_gave (explorer : Explorer) (now : Time) (given : List (Timer.Entry Formatter.Task))
    (gave : explorer.formatter.timers.Gave given) :
    ((explorer.requested now).takeDue now).1.timers.Gave (given ++ explorer.worked (.advance now)) := by
  rw [worked_tick]
  exact Timer.take_due_gave _ given (Formatter.request_each_gave given _ now _ gave) now

-- A batch is worked off as it was taken. Whatever stands in the queue meanwhile, what its tasks schedule included, is
-- not among it, nor among what was executed before.
theorem timers_come_to_rest (ignoreStale : Bool) (settleDelay : Time) (actions : List Action) :
    let explorer := actions.foldl act (start ignoreStale settleDelay)
    (∀ first second third : Time, explorer.inbox = [] →
        (∀ entry ∈ explorer.formatter.timers.entries, entry.deadline ≤ first) → first ≤ second →
      let settled := ((explorer.advance first).1.advance second).1
      settled.formatter.timers.entries = [] ∧ (∀ id, ¬ settled.formatter.timers.isPending id) ∧
        settled.advance third = (settled, false)) ∧
    ∀ now : Time,
      let batch := explorer.worked (.advance now)
      let executed := along worked (start ignoreStale settleDelay) actions ++ batch
      let after := (explorer.advance now).1
      batch = ((explorer.requested now).timers.entries.filter fun entry => entry.deadline ≤ now) ∧
        (after.formatter, after.view.results) = explorer.underWay now batch ∧
        (executed.map Timer.Entry.id).Nodup ∧
        ∀ handled waiting, batch = handled ++ waiting →
          ∀ entry ∈ (explorer.underWay now handled).1.timers.entries,
            entry.id ∉ executed.map Timer.Entry.id ∧ entry ∈ after.formatter.timers.entries := by
  intro explorer
  have accountable := acts_accountable ignoreStale settleDelay actions
  constructor
  · intro first second third quiet due onward
    have structured := acts_structured ignoreStale settleDelay actions
    exact advances_settle explorer structured accountable first second third onward quiet due
  · intro now batch executed after
    have gave := worked_gave actions (start ignoreStale settleDelay) [] Timer.empty_gave
    rw [List.nil_append] at gave
    have taken : ((explorer.requested now).takeDue now).1.timers.Gave executed := taken_gave explorer now _ gave
    have works : (after.formatter, after.view.results) = explorer.underWay now batch := advance_works explorer now
    refine ⟨worked_entries explorer now accountable, works, Timer.gave_once _ _ taken, ?_⟩
    intro handled waiting split entry pending
    refine ⟨Timer.gave_apart _ _ (Formatter.handle_all_gave _ now handled _ _ taken) entry pending, ?_⟩
    have formatter : after.formatter = (Formatter.handleAll now waiting (explorer.underWay now handled).1
        (explorer.underWay now handled).2).1 := by
      refine (congrArg Prod.fst works).trans ?_
      rw [split, underWay, Formatter.handleAll, List.foldl_append]
      rfl
    rw [formatter]
    exact Formatter.handle_all_keeps_entries now waiting _ _ entry pending

-- A full hash is on display when the pass over all fields and the pass over its container come due together.
def formatting : List Action :=
  let hash := Json.Value.string (String.ofList (List.replicate 64 'a'))
  [.load (some "1") 0, .dispatch, .deliver ⟨1, .success .block (.object [("hash", hash)])⟩, .advance 0, .draw 30 12]

theorem two_passes_come_to_rest :
    let explorer := formatting.foldl act (start false 200)
    let measuring := (explorer.advance 200).1
    let settled := (measuring.advance 200).1
    explorer.inbox = [] ∧ (∀ entry ∈ explorer.formatter.timers.entries, entry.deadline ≤ 200) ∧
      explorer.formatter.timers.entries.map Timer.Entry.task = [.globalPass, .containerPass 0] ∧
      measuring.formatter.timers.entries.map Timer.Entry.task = [.measure ⟨0, 0⟩, .measure ⟨0, 0⟩] ∧
      settled.formatter.timers.entries = [] ∧ settled.advance 250 = (settled, false) := by
  intro explorer measuring settled
  have quiet : explorer.inbox = [] := List.eq_nil_of_length_eq_zero (by decide +kernel)
  have due : ∀ entry ∈ explorer.formatter.timers.entries, entry.deadline ≤ 200 := by decide +kernel
  obtain ⟨empty, _, rests⟩ :=
    (timers_come_to_rest false 200 formatting).1 200 200 250 quiet due (by decide)
  exact ⟨quiet, due, by decide +kernel, by decide +kernel, empty, rests⟩

end Explorer
end ChainExplorer
