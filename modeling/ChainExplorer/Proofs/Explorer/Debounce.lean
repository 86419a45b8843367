import ChainExplorer.Proofs.Explorer.Timers
import ChainExplorer.Proofs.Formatter.Requests
import Mathlib.Data.List.Induction

set_option autoImplicit false

namespace ChainExplorer.Explorer

open Search (Completion)

-- The time at which an action asks for a pass over all fields.
def Action.request? : Action → Option Time
  | .load _ now => some now
  | .apply .resize now => some now
  | _ => none

-- What is pending before the action is pending after it.
structure Action.Spares (action : Action) (entry : Timer.Entry Formatter.Task) : Prop where
  goesOn : ∀ time, action ≠ .apply .quit time
  early : ∀ now, action = .advance now → now < entry.deadline
  unasked : entry.task = .globalPass → action.request? = none

-- The passes that an action asks for.
def asked (explorer : Explorer) : Action → List (Timer.Entry Formatter.Task)
  | .advance now => explorer.formatter.askedEach now explorer.answered.view.rendered
  | action => action.request?.toList.map fun time =>
      ⟨time + explorer.formatter.settleDelay, (explorer.formatter.request time none).2, .globalPass⟩

-- The tasks that an action works off.
def worked (explorer : Explorer) : Action → List (Timer.Entry Formatter.Task)
  | .advance now => ((explorer.receiveAll.noteClose.requestRendered now).format now).2
  | _ => []

-- The action asks for the pass and leaves it pending.
def Begins (explorer : Explorer) (action : Action) (entry : Timer.Entry Formatter.Task) : Prop :=
  entry ∈ explorer.asked action ∧ ∀ now, action = .advance now → now < entry.deadline

theorem asked_request (explorer : Explorer) (action : Action) (time : Time) (asks : action.request? = some time) :
    explorer.asked action =
      [⟨time + explorer.formatter.settleDelay, (explorer.formatter.request time none).2, .globalPass⟩] := by
  unfold asked
  split
  · cases asks
  · rw [asks]
    rfl

theorem worked_tick (explorer : Explorer) (now : Time) :
    explorer.worked (.advance now) = ((explorer.requested now).tick explorer.answered.view.results now).2 := by
  have requested := request_rendered_formatter explorer now
  change ((explorer.receiveAll.noteClose.requestRendered now).formatter.tick explorer.answered.view.results now).2 = _
  rw [requested]

theorem requested_accountable (explorer : Explorer) (now : Time) (accountable : explorer.formatter.Accountable []) :
    (explorer.requested now).Accountable [] :=
  Formatter.request_each_accountable _ now _ accountable

theorem worked_entries (explorer : Explorer) (now : Time) (accountable : explorer.formatter.Accountable []) :
    explorer.worked (.advance now) =
      (explorer.requested now).timers.entries.filter fun entry => entry.deadline ≤ now := by
  rw [worked_tick]
  exact Formatter.tick_due _ _ now (requested_accountable explorer now accountable).consistent.ordered

theorem mem_worked (explorer : Explorer) (now : Time) (accountable : explorer.formatter.Accountable [])
    (entry : Timer.Entry Formatter.Task) :
    entry ∈ explorer.worked (.advance now) ↔
      (entry ∈ explorer.asked (.advance now) ∨ entry ∈ explorer.formatter.timers.entries) ∧ entry.deadline ≤ now := by
  rw [worked_entries explorer now accountable, List.mem_filter, decide_eq_true_eq]
  exact and_congr_left fun _ => Formatter.request_each_entries _ now _ entry

theorem one_global_worked (explorer : Explorer) (now : Time) (accountable : explorer.formatter.Accountable []) :
    ((explorer.worked (.advance now)).filter fun entry => entry.task = .globalPass).length ≤ 1 := by
  have named := Formatter.passes_named _ _ _ (requested_accountable explorer now accountable).attributed
  have size := congrArg List.length named
  rw [List.length_map, List.nil_append] at size
  rw [worked_entries explorer now accountable]
  refine Nat.le_trans (List.Sublist.length_le (List.filter_sublist.filter _)) (Nat.le_trans (Nat.le_of_eq size) ?_)
  cases (explorer.requested now).global <;> simp

theorem request_passes (explorer : Explorer) (accountable : explorer.formatter.Accountable []) (action : Action)
    (time : Time) (asks : action.request? = some time) (entry : Timer.Entry Formatter.Task) :
    entry ∈ (explorer.formatter.request time none).1.timers.entries ↔
      explorer.Begins action entry ∨ (entry ∈ explorer.formatter.timers.entries ∧ action.Spares entry) := by
  have moves : ∀ now, action ≠ .advance now := by
    rintro now rfl
    cases asks
  refine (Formatter.request_entries _ accountable time entry).trans (or_congr ?_ (and_congr_right fun _ => ?_))
  · rw [Begins, asked_request explorer action time asks, List.mem_singleton]
    exact (and_iff_left fun now same => absurd same (moves now)).symm
  · constructor
    · intro other
      refine ⟨?_, fun now same => absurd same (moves now), fun task => absurd task other⟩
      rintro _ rfl
      cases asks
    · intro spares task
      rw [spares.unasked task] at asks
      cases asks

theorem advance_passes (explorer : Explorer) (accountable : explorer.formatter.Accountable []) (now : Time)
    (entry : Timer.Entry Formatter.Task) (passes : entry.task.scope? ≠ none) :
    entry ∈ ((explorer.requested now).tick explorer.answered.view.results now).1.1.timers.entries ↔
      explorer.Begins (.advance now) entry ∨
        (entry ∈ explorer.formatter.timers.entries ∧ (Action.advance now).Spares entry) := by
  have ordered := (requested_accountable explorer now accountable).consistent.ordered
  have still : (∀ other, Action.advance now = .advance other → other < entry.deadline) ↔ now < entry.deadline := by
    constructor
    · exact fun early => early now rfl
    · intro later other same
      cases same
      exact later
  have spared : (Action.advance now).Spares entry ↔ now < entry.deadline := by
    rw [← still]
    exact ⟨Action.Spares.early, fun early => ⟨fun _ same => (nomatch same), early, fun _ => rfl⟩⟩
  rw [Formatter.tick_passes _ _ now ordered entry passes, Begins, still, spared, ← or_and_right]
  exact and_congr_left fun _ => Formatter.request_each_entries _ now _ entry

-- A pass is pending after an action that asks for it, or it was pending and is spared.
theorem act_passes (explorer : Explorer) (accountable : explorer.formatter.Accountable []) (action : Action)
    (entry : Timer.Entry Formatter.Task) (passes : entry.task.scope? ≠ none) :
    entry ∈ (explorer.act action).formatter.timers.entries ↔
      explorer.Begins action entry ∨ (entry ∈ explorer.formatter.timers.entries ∧ action.Spares entry) := by
  have untouched (asks : explorer.asked action = []) (spares : action.Spares entry) :
      entry ∈ explorer.formatter.timers.entries ↔
        explorer.Begins action entry ∨ (entry ∈ explorer.formatter.timers.entries ∧ action.Spares entry) := by
    have begins : ¬ explorer.Begins action entry := by simp [Begins, asks]
    rw [or_iff_right begins, and_iff_left spares]
  rw [act_formatter]
  cases action with
  | load search now => exact request_passes explorer accountable _ now rfl entry
  | advance now => exact advance_passes explorer accountable now entry passes
  | apply command time =>
      cases command with
      | resize => exact request_passes explorer accountable _ time rfl entry
      | quit =>
          have emptied : (explorer.reformat (.apply .quit time)).timers.entries = [] :=
            (Formatter.dispose_empties _ accountable).1
          rw [emptied]
          refine iff_of_false List.not_mem_nil ?_
          rintro (⟨asks, _⟩ | ⟨_, spares⟩)
          · cases asks
          · exact spares.goesOn time rfl
      | _ => exact untouched rfl ⟨by simp, by simp, fun _ => rfl⟩
  | _ => exact untouched rfl ⟨by simp, by simp, fun _ => rfl⟩

-- Seen from the last action: it asked for the pass, or it spared one that had been asked for before.
theorem pending_since (ignoreStale : Bool) (settleDelay : Time) (actions : List Action)
    (entry : Timer.Entry Formatter.Task) (passes : entry.task.scope? ≠ none) :
    entry ∈ (actions.foldl act (start ignoreStale settleDelay)).formatter.timers.entries ↔
      ∃ earlier action between, actions = earlier ++ action :: between ∧
        (earlier.foldl act (start ignoreStale settleDelay)).Begins action entry ∧
        ∀ other ∈ between, other.Spares entry := by
  induction actions using List.reverseRecOn with
  | nil =>
      refine iff_of_false List.not_mem_nil ?_
      rintro ⟨earlier, action, between, impossible, _⟩
      simp at impossible
  | append_singleton actions last ih =>
      rw [List.foldl_append, List.foldl_cons, List.foldl_nil,
        act_passes _ (acts_accountable ignoreStale settleDelay actions) last entry passes, ih]
      constructor
      · rintro (begins | ⟨⟨earlier, action, between, rfl, begins, spared⟩, spares⟩)
        · exact ⟨actions, last, [], rfl, begins, by simp⟩
        · refine ⟨earlier, action, between ++ [last], by simp, begins, ?_⟩
          intro other member
          rcases List.mem_append.mp member with before | here
          · exact spared other before
          · exact List.mem_singleton.mp here ▸ spares
      · rintro ⟨earlier, action, between, same, begins, spared⟩
        rcases last_or_before actions earlier between last action same with ⟨rfl, rfl, rfl⟩ | ⟨front, rfl, rfl⟩
        · exact .inl begins
        · refine .inr ⟨⟨earlier, action, front, rfl, begins, ?_⟩, spared _ (by simp)⟩
          exact fun other member => spared other (List.mem_append_left _ member)

theorem act_continues (explorer : Explorer) (action : Action) :
    Formatter.Continues explorer.formatter (explorer.act action).formatter := by
  rw [act_formatter]
  unfold reformat
  split
  · exact Formatter.request_continues _ _ none
  · exact Formatter.request_continues _ _ none
  · exact Formatter.dispose_continues _
  · exact Formatter.continues_trans _ _ _ (Formatter.request_each_continues _ _ _) (Formatter.tick_continues _ _ _)
  · exact Formatter.continues_refl _

theorem acts_delay (ignoreStale : Bool) (settleDelay : Time) (actions : List Action) :
    (actions.foldl act (start ignoreStale settleDelay)).formatter.settleDelay = settleDelay := by
  refine List.foldlRecOn (motive := fun explorer : Explorer => explorer.formatter.settleDelay = settleDelay) actions _ rfl ?_
  intro explorer before action _
  exact (act_continues explorer action).delay.trans before

-- An action takes the next numbers for the passes it asks for.
def TakesNumbers (explorer : Explorer) (action : Action) : Prop :=
  ((explorer.asked action).map Timer.Entry.id).Pairwise (· < ·) ∧
    ∀ entry ∈ explorer.asked action, explorer.formatter.timers.nextId ≤ entry.id ∧
      entry.id < (explorer.act action).formatter.timers.nextId

theorem request_takes_number (explorer : Explorer) (action : Action) (time : Time) (asks : action.request? = some time)
    (after : (explorer.act action).formatter = (explorer.formatter.request time none).1) :
    explorer.TakesNumbers action := by
  obtain ⟨number, next⟩ := Formatter.request_number explorer.formatter time
  rw [TakesNumbers, asked_request explorer action time asks, after, next]
  refine ⟨List.pairwise_singleton _ _, ?_⟩
  intro entry member
  rw [List.mem_singleton.mp member]
  exact ⟨Nat.le_of_eq number.symm, Nat.lt_succ_of_le (Nat.le_of_eq number)⟩

theorem act_takes_numbers (explorer : Explorer) (action : Action) : explorer.TakesNumbers action := by
  have nothing (asks : explorer.asked action = []) : explorer.TakesNumbers action := by
    rw [TakesNumbers, asks]
    exact ⟨.nil, fun _ member => nomatch member⟩
  cases action with
  | load search now => exact request_takes_number explorer _ now rfl rfl
  | advance now =>
      obtain ⟨numbers, next⟩ := Formatter.asked_each_numbers explorer.formatter now explorer.answered.view.rendered
      have ticked := (Formatter.tick_continues (explorer.requested now) explorer.answered.view.results now).next
      have after : (explorer.act (.advance now)).formatter =
          ((explorer.requested now).tick explorer.answered.view.results now).1.1 := act_formatter explorer (.advance now)
      refine ⟨numbers ▸ List.pairwise_lt_range', ?_⟩
      intro entry member
      have number := List.mem_map_of_mem (f := Timer.Entry.id) member
      rw [asked, numbers, List.mem_range'_1] at number
      rw [after]
      exact ⟨number.1, Nat.lt_of_lt_of_le (next ▸ number.2) ticked⟩
  | apply command time =>
      cases command with
      | resize => exact request_takes_number explorer _ time rfl rfl
      | _ => exact nothing rfl
  | _ => exact nothing rfl

theorem asked_increasing (actions : List Action) (explorer : Explorer) :
    ((along asked explorer actions).map Timer.Entry.id).Pairwise (· < ·) ∧
      ∀ entry ∈ along asked explorer actions, explorer.formatter.timers.nextId ≤ entry.id := by
  induction actions generalizing explorer with
  | nil => exact ⟨.nil, fun _ member => nomatch member⟩
  | cons action rest ih =>
      obtain ⟨here, bounds⟩ := act_takes_numbers explorer action
      obtain ⟨there, later⟩ := ih (explorer.act action)
      rw [along, List.map_append, List.pairwise_append]
      refine ⟨⟨here, there, ?_⟩, ?_⟩
      · intro first member second following
        obtain ⟨a, asks, rfl⟩ := List.mem_map.mp member
        obtain ⟨b, asksLater, rfl⟩ := List.mem_map.mp following
        exact Nat.lt_of_lt_of_le (bounds a asks).2 (later b asksLater)
      · intro entry member
        rcases List.mem_append.mp member with now | after
        · exact (bounds entry now).1
        · exact Nat.le_trans (act_continues explorer action).next (later entry after)

theorem act_gave (explorer : Explorer) (action : Action) (given : List (Timer.Entry Formatter.Task))
    (gave : explorer.formatter.timers.Gave given) :
    (explorer.act action).formatter.timers.Gave (given ++ explorer.worked action) := by
  have idle (after : Formatter) (same : after.timers.Gave given) : after.timers.Gave (given ++ []) :=
    (List.append_nil given).symm ▸ same
  rw [act_formatter]
  cases action with
  | advance now =>
      rw [worked_tick]
      exact Formatter.tick_gave given _ _ now (Formatter.request_each_gave given _ now _ gave)
  | load search now => exact idle _ (Formatter.request_gave given _ now none gave)
  | apply command time =>
      cases command with
      | resize => exact idle _ (Formatter.request_gave given _ time none gave)
      | quit => exact idle _ (Formatter.dispose_gave given _ gave)
      | _ => exact idle _ gave
  | _ => exact idle _ gave

theorem worked_gave (actions : List Action) (explorer : Explorer) (given : List (Timer.Entry Formatter.Task))
    (gave : explorer.formatter.timers.Gave given) :
    (actions.foldl act explorer).formatter.timers.Gave (given ++ along worked explorer actions) := by
  induction actions generalizing explorer given with
  | nil =>
      rw [along, List.append_nil]
      exact gave
  | cons action rest ih =>
      rw [along, ← List.append_assoc]
      exact ih _ _ (act_gave explorer action given gave)

theorem worked_once (ignoreStale : Bool) (settleDelay : Time) (actions : List Action) :
    ((along worked (start ignoreStale settleDelay) actions).map Timer.Entry.id).Nodup :=
  Timer.gave_once _ _ (worked_gave actions (start ignoreStale settleDelay) [] Timer.empty_gave)

-- The passes that are asked for, with the delay with which the run began.
theorem asked_passes (ignoreStale : Bool) (settleDelay : Time) (actions : List Action) :
    let explorer := actions.foldl act (start ignoreStale settleDelay)
    (∀ request time, request.request? = some time → explorer.asked request =
        [⟨time + settleDelay, (explorer.formatter.request time none).2, .globalPass⟩]) ∧
      (∀ now, (explorer.asked (.advance now)).map (fun entry => (entry.deadline, entry.task)) =
        explorer.answered.view.rendered.map fun container => (now + settleDelay, .containerPass container)) ∧
      ∀ now, ∀ entry ∈ explorer.asked (.advance now),
        entry.deadline = now + settleDelay ∧ ∃ container, entry.task = .containerPass container := by
  intro explorer
  have delay : explorer.formatter.settleDelay = settleDelay := acts_delay ignoreStale settleDelay actions
  refine ⟨?_, ?_, ?_⟩
  · intro request time asks
    rw [asked_request explorer request time asks, delay]
  · intro now
    rw [← delay]
    exact Formatter.asked_each_tasks _ now _
  · intro now entry member
    rw [← delay]
    exact Formatter.asked_each_pass _ now _ entry member

theorem request_or_advance (explorer : Explorer) (action : Action) (entry : Timer.Entry Formatter.Task)
    (asks : entry ∈ explorer.asked action) : (∃ time, action.request? = some time) ∨ ∃ now, action = .advance now := by
  cases action with
  | load search now => exact .inl ⟨now, rfl⟩
  | advance now => exact .inr ⟨now, rfl⟩
  | apply command time =>
      cases command with
      | resize => exact .inl ⟨time, rfl⟩
      | _ => cases asks
  | _ => cases asks

theorem global_passes (ignoreStale : Bool) (settleDelay : Time) (actions : List Action) (now : Time)
    (entry : Timer.Entry Formatter.Task) :
    let after (actions : List Action) := actions.foldl act (start ignoreStale settleDelay)
    entry ∈ (after actions).worked (.advance now) ∧ entry.task = .globalPass ↔
      ∃ earlier request between time, actions = earlier ++ request :: between ∧ request.request? = some time ∧
        entry = ⟨time + settleDelay, ((after earlier).formatter.request time none).2, .globalPass⟩ ∧
        (∀ action ∈ between, action.Spares entry) ∧ time + settleDelay ≤ now := by
  intro after
  rw [mem_worked _ now (acts_accountable ignoreStale settleDelay actions)]
  constructor
  · rintro ⟨⟨known, reached⟩, task⟩
    have ofContainers (actions : List Action) (tick : Time) : entry ∉ (after actions).asked (.advance tick) := by
      intro member
      obtain ⟨_, container, other⟩ := (asked_passes ignoreStale settleDelay actions).2.2 tick entry member
      rw [task] at other
      cases other
    have pending := known.resolve_left (ofContainers actions now)
    obtain ⟨earlier, action, between, same, ⟨asks, _⟩, spared⟩ :=
      (pending_since ignoreStale settleDelay actions entry (by simp [task, Formatter.Task.scope?])).mp pending
    rcases request_or_advance _ action entry asks with ⟨time, requests⟩ | ⟨tick, rfl⟩
    · rw [(asked_passes ignoreStale settleDelay earlier).1 action time requests, List.mem_singleton] at asks
      have deadline : entry.deadline = time + settleDelay := congrArg Timer.Entry.deadline asks
      exact ⟨earlier, action, between, time, same, requests, asks, spared, deadline ▸ reached⟩
    · exact absurd asks (ofContainers earlier tick)
  · rintro ⟨earlier, request, between, time, same, requests, rfl, spared, reached⟩
    refine ⟨⟨.inr ?_, reached⟩, rfl⟩
    refine (pending_since ignoreStale settleDelay actions _ (by simp [Formatter.Task.scope?])).mpr ?_
    refine ⟨earlier, request, between, same, ⟨?_, ?_⟩, spared⟩
    · rw [(asked_passes ignoreStale settleDelay earlier).1 request time requests]
      exact List.mem_singleton_self _
    · rintro tick rfl
      cases requests

theorem container_passes (ignoreStale : Bool) (settleDelay : Time) (actions : List Action) (now : Time)
    (entry : Timer.Entry Formatter.Task) :
    let after (actions : List Action) := actions.foldl act (start ignoreStale settleDelay)
    (entry ∈ (after actions).worked (.advance now) ∧ ∃ container, entry.task = .containerPass container) ↔
      (entry ∈ (after actions).asked (.advance now) ∧ settleDelay = 0) ∨
        ∃ earlier tick between, actions = earlier ++ .advance tick :: between ∧
          entry ∈ (after earlier).asked (.advance tick) ∧ settleDelay ≠ 0 ∧
          (∀ action ∈ between, action.Spares entry) ∧ tick + settleDelay ≤ now := by
  intro after
  have asked (actions : List Action) := (asked_passes ignoreStale settleDelay actions).2.2
  rw [mem_worked _ now (acts_accountable ignoreStale settleDelay actions)]
  constructor
  · rintro ⟨⟨known, reached⟩, container, task⟩
    rcases known with new | pending
    · have deadline := (asked actions now entry new).1
      exact .inl ⟨new, by lia⟩
    · obtain ⟨earlier, action, between, same, ⟨asks, early⟩, spared⟩ :=
        (pending_since ignoreStale settleDelay actions entry (by simp [task, Formatter.Task.scope?])).mp pending
      rcases request_or_advance _ action entry asks with ⟨time, requests⟩ | ⟨tick, rfl⟩
      · rw [asked_request _ action time requests, List.mem_singleton] at asks
        rw [asks] at task
        cases task
      · have deadline := (asked earlier tick entry asks).1
        have later := early tick rfl
        exact .inr ⟨earlier, tick, between, same, asks, by lia, spared, by lia⟩
  · rintro (⟨new, immediate⟩ | ⟨earlier, tick, between, same, new, delayed, spared, reached⟩)
    · obtain ⟨deadline, passes⟩ := asked actions now entry new
      exact ⟨⟨.inl new, by lia⟩, passes⟩
    · obtain ⟨deadline, container, task⟩ := asked earlier tick entry new
      refine ⟨⟨.inr ?_, by lia⟩, container, task⟩
      refine (pending_since ignoreStale settleDelay actions entry (by simp [task, Formatter.Task.scope?])).mpr ?_
      refine ⟨earlier, .advance tick, between, same, ⟨new, ?_⟩, spared⟩
      intro other same
      cases same
      lia

-- What a pump hands to the formatter, one task after another.
theorem advance_works (explorer : Explorer) (now : Time) :
    ((explorer.act (.advance now)).formatter, (explorer.act (.advance now)).view.results) =
      Formatter.handleAll now (explorer.worked (.advance now)) ((explorer.requested now).takeDue now).1
        explorer.answered.view.results := by
  rw [worked_tick, act_formatter]
  have requested := request_rendered_formatter explorer now
  have results : (explorer.act (.advance now)).view.results =
      ((explorer.receiveAll.noteClose.requestRendered now).formatter.tick explorer.answered.view.results now).1.2 := rfl
  rw [results, requested]
  rfl

theorem requests_are_debounced (ignoreStale : Bool) (settleDelay : Time) (actions : List Action) (now : Time) :
    let after (actions : List Action) := actions.foldl act (start ignoreStale settleDelay)
    let due := (after actions).worked (.advance now)
    (∀ entry, entry ∈ due ∧ entry.task = .globalPass ↔
        ∃ earlier request between time, actions = earlier ++ request :: between ∧ request.request? = some time ∧
          entry = ⟨time + settleDelay, ((after earlier).formatter.request time none).2, .globalPass⟩ ∧
          (∀ action ∈ between, action.Spares entry) ∧ time + settleDelay ≤ now) ∧
      (due.filter fun entry => entry.task = .globalPass).length ≤ 1 ∧
      (∀ entry, (entry ∈ due ∧ ∃ container, entry.task = .containerPass container) ↔
        (entry ∈ (after actions).asked (.advance now) ∧ settleDelay = 0) ∨
          ∃ earlier tick between, actions = earlier ++ .advance tick :: between ∧
            entry ∈ (after earlier).asked (.advance tick) ∧ settleDelay ≠ 0 ∧
            (∀ action ∈ between, action.Spares entry) ∧ tick + settleDelay ≤ now) ∧
      ((after actions).asked (.advance now)).map (fun entry => (entry.deadline, entry.task)) =
        (after actions).answered.view.rendered.map (fun container => (now + settleDelay, .containerPass container)) ∧
      ((along asked (start ignoreStale settleDelay) actions).map Timer.Entry.id).Pairwise (· < ·) ∧
      ((along worked (start ignoreStale settleDelay) actions).map Timer.Entry.id).Nodup ∧
      (((after actions).act (.advance now)).formatter, ((after actions).act (.advance now)).view.results) =
        Formatter.handleAll now due (((after actions).requested now).takeDue now).1 (after actions).answered.view.results := by
  intro after due
  have accountable := acts_accountable ignoreStale settleDelay actions
  exact ⟨global_passes ignoreStale settleDelay actions now, one_global_worked _ now accountable,
    container_passes ignoreStale settleDelay actions now, (asked_passes ignoreStale settleDelay actions).2.1 now,
    (asked_increasing actions _).1, worked_once ignoreStale settleDelay actions, advance_works (after actions) now⟩

-- Without a delay the pass is due as soon as it is asked for, and the pump that asks for it is no later one.
theorem undelayed_pass_comes_at_once :
    ¬ ∀ (ignoreStale : Bool) (settleDelay : Time) (earlier between : List Action) (tick now : Time)
      (entry : Timer.Entry Formatter.Task),
      let after (actions : List Action) := actions.foldl act (start ignoreStale settleDelay)
      entry ∈ (after earlier).asked (.advance tick) → (∀ action ∈ between, action.Spares entry) → tick + settleDelay ≤ now →
      entry ∈ (after (earlier ++ .advance tick :: between)).worked (.advance now) := by
  intro claim
  let answer : Completion := ⟨1, .success .block (.object [])⟩
  have due := claim false 0 [.load (some "1") 0, .deliver answer] [] 0 0 ⟨0, 1, .containerPass 0⟩ (by decide +kernel)
    (by simp) (Nat.le_refl 0)
  revert due
  decide +kernel

end ChainExplorer.Explorer
