import ChainExplorer.Proofs.Explorer.Line
import ChainExplorer.Proofs.Explorer.Timers
import ChainExplorer.Proofs.Formatter.Requests
import Mathlib.Data.List.Chain

set_option autoImplicit false

namespace ChainExplorer

open Search (Completion Controller Request)

namespace History

theorem push_chained (history : History) (visit : Visit) (chained : history.entries.IsChain (· ≠ ·)) :
    (history.push visit).entries.IsChain (· ≠ ·) := by
  by_cases same : history.current = visit
  · rwa [push_same history visit same]
  · rw [(push_other history visit same).1, List.isChain_append]
    refine ⟨chained.take _, List.isChain_singleton _, ?_⟩
    intro last ends added new
    have here : (history.entries.take (history.cursor + 1)).getLast? = some history.current := by
      rw [List.getLast?_take, if_neg (Nat.succ_ne_zero _), Nat.add_sub_cancel, history.current_entry]
      rfl
    rw [here] at ends
    cases ends
    cases new
    exact same

theorem shaped_first (history : History) (shaped : history.Shaped) : history.entries[0]? = some none := by
  obtain ⟨keys, entries, _⟩ := shaped
  rw [entries]
  rfl

theorem shaped_later (history : History) (shaped : history.Shaped) (index : Nat) (later : 0 < index)
    (inside : index < history.entries.length) : ∃ key, history.entries[index]? = some (some key) ∧ key ≠ "" := by
  obtain ⟨keys, entries, present⟩ := shaped
  obtain ⟨before, rfl⟩ := Nat.exists_eq_add_of_lt later
  rw [entries, Nat.zero_add] at inside ⊢
  rw [List.length_cons, List.length_map, Nat.add_lt_add_iff_right] at inside
  refine ⟨keys[before], ?_, fun empty => present (empty ▸ List.getElem_mem inside)⟩
  rw [List.getElem?_cons_succ, List.getElem?_map, List.getElem?_eq_getElem inside]
  rfl

theorem chained_neighbours (history : History) (chained : history.entries.IsChain (· ≠ ·)) (index : Nat)
    (visit : Visit) (here : history.entries[index]? = some visit) : history.entries[index + 1]? ≠ some visit := by
  intro next
  obtain ⟨inside, after⟩ := List.getElem?_eq_some_iff.mp next
  obtain ⟨_, before⟩ := List.getElem?_eq_some_iff.mp here
  exact List.isChain_iff_getElem.mp chained index inside (before.trans after.symm)

end History

namespace Formatter

-- The container that a task is about.
def Task.target? : Task → Option ContainerId
  | .globalPass => none
  | .containerPass container => some container
  | .measure field => some field.container

-- No task is about a container that is still to be numbered.
def Below (formatter : Formatter) (bound : ContainerId) : Prop :=
  ∀ entry ∈ formatter.timers.entries, ∀ id, entry.task.target? = some id → id < bound

theorem below_fewer (before after : Formatter) (bound : ContainerId) (below : before.Below bound)
    (kept : after.timers.entries.Sublist before.timers.entries) : after.Below bound :=
  fun entry member => below entry (kept.subset member)

theorem request_below (formatter : Formatter) (now : Time) (bound : ContainerId) (below : formatter.Below bound) :
    (formatter.request now none).1.Below bound := by
  have ground := below_fewer formatter formatter.cancelGlobal bound below (cancel_global_fewer formatter).1
  intro entry member id target
  rcases (Timer.mem_schedule _ _ _ _ _).mp member with rfl | old
  · cases target
  · exact ground entry old id target

theorem request_each_below (formatter : Formatter) (now : Time) (containers : List ContainerId) (bound : ContainerId)
    (below : formatter.Below bound) (numbered : ∀ id ∈ containers, id < bound) :
    (formatter.requestEach now containers).Below bound := by
  refine List.foldlRecOn (motive := fun after : Formatter => after.Below bound) containers _ below ?_
  intro after before container member entry queued id target
  rcases (Timer.mem_schedule _ _ _ _ _).mp queued with rfl | old
  · cases target
    exact numbered container member
  · exact before entry old id target

theorem tick_below (formatter : Formatter) (results : Results) (now : Time) (bound : ContainerId)
    (below : formatter.Below bound) (numbered : ∀ id ∈ results.containers.map Container.id, id < bound) :
    (formatter.tick results now).1.1.Below bound := by
  intro entry member id target
  rcases handle_all_new_entries now _ _ results entry member with left | ⟨_, field, measures, shown⟩
  · refine below entry ?_ id target
    rw [← tick_partition formatter now]
    exact List.mem_append_right _ left
  · rw [measures] at target
    cases target
    exact numbered _ shown

theorem dispose_fewer (formatter : Formatter) :
    formatter.dispose.timers.entries.Sublist formatter.timers.entries := by
  refine List.foldlRecOn (motive := fun timers : Timer.Queue Task => timers.entries.Sublist formatter.timers.entries) _ _
    (cancel_global_fewer formatter).1 ?_
  intro timers before id _
  exact (Timer.cancel_sublist timers id).1.trans before

end Formatter

namespace Explorer

structure Structured (explorer : Explorer) : Prop where
  accounted : ∃ made, explorer.view.results.Accounted made
  noticed : explorer.view.rendered = []
  below : explorer.formatter.Below explorer.view.results.nextId
  shaped : explorer.view.history.Shaped
  chained : explorer.view.history.entries.IsChain (· ≠ ·)

theorem answered_history (explorer : Explorer) (structured : explorer.Structured) :
    explorer.answered.view.history.Shaped ∧ explorer.answered.view.history.entries.IsChain (· ≠ ·) := by
  refine List.foldlRecOn (motive := fun after : Explorer => after.view.history.Shaped ∧
    after.view.history.entries.IsChain (· ≠ ·)) explorer.inbox _ ⟨structured.shaped, structured.chained⟩ ?_
  rintro after ⟨shaped, chained⟩ completion _
  rcases receive_pushes after completion with same | ⟨key, present, pushed⟩
  · rw [same]
    exact ⟨shaped, chained⟩
  · rw [pushed]
    exact ⟨History.push_shaped _ shaped key present, History.push_chained _ _ chained⟩

-- What an answer puts on display has been numbered when the formatter is to notice it.
theorem receives_rendered (answers : List Completion) (explorer : Explorer) (structured : explorer.Structured) :
    ∀ id ∈ (answers.foldl receive explorer).view.rendered,
      id < (answers.foldl receive explorer).view.results.nextId := by
  refine List.foldlRecOn (motive := fun after : Explorer => ∀ id ∈ after.view.rendered, id < after.view.results.nextId)
    answers _ ?_ ?_
  · rw [structured.noticed]
    exact List.forall_mem_nil _
  · intro after before completion _
    cases making : after.made? completion with
    | none =>
        rw [receive_unmade after completion making]
        exact before
    | some container =>
        obtain ⟨number, _, _, next, rendered⟩ := receive_made after completion container making
        rw [rendered, next]
        intro id member
        rcases List.mem_append.mp member with old | new
        · exact Nat.lt_succ_of_lt (before id old)
        · rw [List.mem_singleton.mp new, number]
          exact Nat.lt_succ_self _

theorem advance_view (explorer : Explorer) (now : Time) :
    (explorer.act (.advance now)).view =
      { explorer.answered.view with
        rendered := []
        results := ((explorer.requested now).tick explorer.answered.view.results now).1.2 } := by
  rw [← request_rendered_formatter]
  rfl

theorem advance_structured (explorer : Explorer) (structured : explorer.Structured) (now : Time) :
    (explorer.act (.advance now)).Structured := by
  obtain ⟨made, accounted⟩ := structured.accounted
  have answered := receives_accounted explorer.inbox explorer made accounted
  have shown := Results.displayed_numbered _ _ answered
  have retexts := Formatter.tick_retexts (explorer.requested now) explorer.answered.view.results now
  have traces := Formatter.tick_traces _ answered.distinct (explorer.requested now) _ now answered.traces
  have below : explorer.formatter.Below explorer.answered.view.results.nextId := fun entry member id target =>
    Nat.lt_of_lt_of_le (structured.below entry member id target) (receives_next explorer.inbox explorer)
  have requested := Formatter.request_each_below _ now _ _ below (receives_rendered explorer.inbox explorer structured)
  obtain ⟨shaped, chained⟩ := answered_history explorer structured
  have view := advance_view explorer now
  constructor
  · rw [view]
    exact ⟨_, Results.retexts_accounted _ _ _ answered retexts traces⟩
  · rw [view]
  · rw [act_formatter, view]
    dsimp only
    rw [retexts.nextId]
    exact Formatter.tick_below _ _ now _ requested shown
  · rw [view]
    exact shaped
  · rw [view]
    exact chained

-- What leaves the formatter and the results alone, or clears the results, keeps the structure.
theorem remains_structured (before after : Explorer) (structured : before.Structured)
    (remains : Session.Remains before.view.results after.view.results)
    (rendered : after.view.rendered = before.view.rendered)
    (entries : after.view.history.entries = before.view.history.entries)
    (below : after.formatter.Below before.view.results.nextId) : after.Structured := by
  obtain ⟨made, accounted⟩ := structured.accounted
  exact ⟨⟨made, Session.remains_accounted made _ _ remains accounted⟩, rendered.trans structured.noticed,
    remains.2 ▸ below, History.shaped_entries _ _ structured.shaped entries, entries ▸ structured.chained⟩

theorem navigate_entries (explorer : Explorer) (history : Option History)
    (entries : ∀ other, history = some other → other.entries = explorer.view.history.entries) :
    (explorer.navigate history).view.history.entries = explorer.view.history.entries := by
  cases history with
  | none => rfl
  | some other => exact entries other rfl

theorem apply_entries (explorer : Explorer) (command : Command) (time : Time) :
    (explorer.apply command time).1.view.history.entries = explorer.view.history.entries := by
  cases command with
  | key key =>
      unfold apply
      dsimp only
      split <;> rfl
  | back => exact navigate_entries explorer _ fun other moved => (History.back_frame _ other moved).1
  | forward => exact navigate_entries explorer _ fun other moved => (History.forward_frame _ other moved).1
  | _ => rfl

theorem apply_below (explorer : Explorer) (structured : explorer.Structured) (command : Command) (time : Time) :
    (explorer.apply command time).1.formatter.Below explorer.view.results.nextId := by
  by_cases quits : command = .quit
  · rw [quits]
    exact Formatter.below_fewer _ _ _ structured.below (Formatter.dispose_fewer _)
  · rw [Session.apply_formatter explorer command time quits]
    split
    · exact Formatter.request_below _ time _ structured.below
    · exact structured.below

theorem draw_structured (explorer : Explorer) (structured : explorer.Structured) (width height : Nat) :
    (explorer.act (.draw width height)).Structured := by
  obtain ⟨made, accounted⟩ := structured.accounted
  obtain ⟨_, next, length⟩ := Screen.ResultsPane.drawn_frame explorer.view.results width
    (Screen.Layout.ofHeight height).results
  refine ⟨⟨made, Results.traces_drawn _ _ _ _ accounted.traces, accounted.distinct, ?_, ?_⟩, structured.noticed, ?_,
    structured.shaped, structured.chained⟩
  · exact fun origin known => Nat.lt_of_lt_of_eq (accounted.numbered origin known) next.symm
  · exact Nat.le_trans (Nat.le_of_eq length) accounted.alone
  · intro entry member id target
    exact Nat.lt_of_lt_of_eq (structured.below entry member id target) next.symm

theorem act_structured (explorer : Explorer) (structured : explorer.Structured) (action : Action) :
    (explorer.act action).Structured := by
  have same : Session.Remains explorer.view.results explorer.view.results := ⟨.inl rfl, rfl⟩
  cases action with
  | load search now =>
      exact remains_structured explorer _ structured same rfl rfl
        (Formatter.request_below _ now _ structured.below)
  | apply command time =>
      obtain ⟨remains, rendered⟩ := Session.apply_remains explorer command time
      exact remains_structured explorer _ structured remains rendered (apply_entries explorer command time)
        (apply_below explorer structured command time)
  | deliver completion =>
      unfold act deliver
      dsimp only
      split <;> exact remains_structured explorer _ structured same rfl rfl structured.below
  | advance now => exact advance_structured explorer structured now
  | draw width height => exact draw_structured explorer structured width height
  | _ => exact remains_structured explorer _ structured same rfl rfl structured.below

theorem acts_structured (ignoreStale : Bool) (settleDelay : Time) (actions : List Action) :
    (actions.foldl act (start ignoreStale settleDelay)).Structured := by
  refine List.foldlRecOn (motive := Structured) actions _ ?_ ?_
  · exact ⟨⟨[], fun _ member => (nomatch member), List.nodup_nil, fun _ member => (nomatch member), Nat.zero_le 1⟩,
      rfl, fun _ member => (nomatch member), ⟨[], rfl, by simp⟩, List.isChain_singleton _⟩
  · intro explorer before action _
    exact act_structured explorer before action

-- What it means to arrive at another entry.
structure Arrives (before after : Explorer) (other : History) : Prop where
  history : after.view.history = other
  landing : other.cursor = 0 →
    after.controller.input.value = "" ∧ after.view.results.containers = [] ∧ after.outbox = before.outbox
  beyond : other.cursor ≠ 0 → ∃ key, other.entries[other.cursor]? = some (some key) ∧ key ≠ "" ∧
    after.controller.input.value = key ∧ after.outbox = before.outbox ++ [⟨before.controller.nextRequest, key⟩]

theorem navigate_arrives (explorer : Explorer) (other : History) (shaped : other.Shaped) :
    explorer.Arrives (explorer.navigate (some other)) other := by
  have outbox : (explorer.navigate (some other)).outbox = explorer.outbox ++
      (explorer.controller.restore explorer.view.results other.current).2.2.toList := rfl
  have results : (explorer.navigate (some other)).view.results =
      (explorer.controller.restore explorer.view.results other.current).2.1 := rfl
  have input := congrArg Search.Controller.input (navigate_search explorer other).1
  have line := (Controller.submit_line
    { explorer.controller with input := explorer.controller.input.setValue (other.current.getD "") }).1
  constructor
  · rfl
  · intro first
    have landing := (History.landing_iff other shaped).mpr first
    rw [landing, Controller.restore_landing] at outbox results
    rw [landing] at input line
    exact ⟨(congrArg Search.Input.value input).trans line, congrArg Results.containers results,
      outbox.trans (List.append_nil _)⟩
  · intro later
    obtain ⟨key, current⟩ := Option.ne_none_iff_exists'.mp (mt (History.landing_iff other shaped).mp later)
    have present := History.current_key other shaped key current
    rw [current, Controller.restore_key _ _ key present] at outbox
    rw [current] at input line
    exact ⟨key, current ▸ other.current_entry, present, (congrArg Search.Input.value input).trans line, outbox⟩

theorem back_arrives (explorer : Explorer) (structured : explorer.Structured) (time : Time) (other : History)
    (moved : explorer.view.history.back = some other) :
    explorer.Arrives (explorer.apply .back time).1 other := by
  have shaped := History.shaped_entries _ other structured.shaped (History.back_frame _ other moved).1
  have arrives := navigate_arrives explorer other shaped
  rwa [← moved] at arrives

theorem forward_arrives (explorer : Explorer) (structured : explorer.Structured) (time : Time) (other : History)
    (moved : explorer.view.history.forward = some other) :
    explorer.Arrives (explorer.apply .forward time).1 other := by
  have shaped := History.shaped_entries _ other structured.shaped (History.forward_frame _ other moved).1
  have arrives := navigate_arrives explorer other shaped
  rwa [← moved] at arrives

theorem explorer_keeps_its_structure (ignoreStale : Bool) (settleDelay : Time) (actions : List Action) :
    let explorer := actions.foldl act (start ignoreStale settleDelay)
    let results := explorer.view.results
    let history := explorer.view.history
    results.containers.length ≤ 1 ∧
      history.cursor < history.entries.length ∧ history.entries[0]? = some none ∧
      (∀ index, 0 < index → index < history.entries.length →
        ∃ key, history.entries[index]? = some (some key) ∧ key ≠ "") ∧
      (∀ index visit, history.entries[index]? = some visit → history.entries[index + 1]? ≠ some visit) ∧
      (∀ container ∈ results.containers, container.id < results.nextId) ∧
      (∀ id ∈ explorer.answered.view.rendered, id < explorer.answered.view.results.nextId) ∧
      explorer.view.rendered = [] ∧ (∀ now, (explorer.advance now).1.view.rendered = []) ∧
      (∀ entry ∈ explorer.formatter.timers.entries, ∀ id,
        entry.task = .containerPass id ∨ (∃ field : FieldId, entry.task = .measure field ∧ field.container = id) →
        id < results.nextId) ∧
      (∀ time other, history.back = some other → explorer.Arrives (explorer.apply .back time).1 other) ∧
      ∀ time other, history.forward = some other → explorer.Arrives (explorer.apply .forward time).1 other := by
  intro explorer results history
  have structured : explorer.Structured := acts_structured ignoreStale settleDelay actions
  obtain ⟨made, accounted⟩ := structured.accounted
  have numbered (container : Container) (shown : container ∈ results.containers) : container.id < results.nextId :=
    Results.displayed_numbered made results accounted container.id (List.mem_map_of_mem shown)
  refine ⟨accounted.alone, history.cursor_lt, history.shaped_first structured.shaped,
    history.shaped_later structured.shaped, history.chained_neighbours structured.chained, numbered,
    receives_rendered explorer.inbox explorer structured, structured.noticed,
    fun now => (advance_structured explorer structured now).noticed, ?_, back_arrives explorer structured,
    forward_arrives explorer structured⟩
  rintro entry member id (passes | ⟨field, measures, owner⟩)
  · exact structured.below entry member id (by rw [passes]; rfl)
  · exact structured.below entry member id (by rw [measures, ← owner]; rfl)

end Explorer
end ChainExplorer
