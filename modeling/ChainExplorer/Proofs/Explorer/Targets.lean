import ChainExplorer.Proofs.Explorer.Debounce
import ChainExplorer.Proofs.Explorer.Structure
import ChainExplorer.Proofs.Formatter.Reach

set_option autoImplicit false

namespace ChainExplorer

open Search (Completion)

namespace Formatter

theorem target_reached (task : Task) (number : ContainerId) (targets : task.target? = some number) (id : FieldId)
    (field : Field) (reached : task.Reaches id field) : id.container = number := by
  cases task with
  | globalPass => cases targets
  | containerPass container => exact reached.2.trans (Option.some.inj targets)
  | measure place => exact (congrArg FieldId.container reached.2).trans (Option.some.inj targets)

-- A task whose container is gone comes to nothing.
theorem handle_gone (formatter : Formatter) (results : Results) (now : Time) (due : Timer.Entry Task)
    (number : ContainerId) (targets : due.task.target? = some number) (gone : results.container? number = none) :
    (formatter.handle results now due).1.timers = formatter.timers ∧
      (formatter.handle results now due).2 = results := by
  unfold handle
  cases task : due.task with
  | globalPass =>
      rw [task] at targets
      cases targets
  | containerPass container =>
      rw [task] at targets
      cases targets
      have visits : results.hashFields (some number) = [] := by
        refine List.eq_nil_iff_forall_not_mem.mpr fun id visited => ?_
        obtain ⟨inScope, container, shown, owner, _⟩ := (Results.mem_hash_fields results _ id).mp visited
        have named : number = id.container := Option.some.inj (inScope.resolve_left (by simp))
        exact List.find?_eq_none.mp gone container shown (by simp [owner, named])
      dsimp only
      rw [runPass, visits]
      exact ⟨rfl, rfl⟩
  | measure place =>
      rw [task] at targets
      cases targets
      have missing : results.field? place = none := by
        unfold Results.field?
        rw [gone]
      dsimp only
      rw [measure, missing]
      exact ⟨rfl, rfl⟩

end Formatter

namespace Explorer

-- The containers that an action makes.
def makes (explorer : Explorer) : Action → List Container
  | .advance _ => explorer.making explorer.inbox
  | _ => []

theorem making_numbers (answers : List Completion) (explorer : Explorer) :
    (explorer.making answers).map Container.id =
        List.range' explorer.view.results.nextId (explorer.making answers).length ∧
      (answers.foldl receive explorer).view.results.nextId =
        explorer.view.results.nextId + (explorer.making answers).length := by
  induction answers generalizing explorer with
  | nil => exact ⟨rfl, rfl⟩
  | cons answer rest ih =>
      obtain ⟨numbers, next⟩ := ih (explorer.receive answer)
      rw [List.foldl_cons, next, making, List.map_append, numbers]
      cases made : explorer.made? answer with
      | none =>
          rw [receive_unmade explorer answer made]
          exact ⟨rfl, rfl⟩
      | some container =>
          obtain ⟨number, _, _, after, _⟩ := receive_made explorer answer container made
          rw [after, Option.toList_some, List.map_singleton, number, List.singleton_append, List.singleton_append,
            List.length_cons, List.range'_succ]
          exact ⟨rfl, Nat.add_right_comm _ _ _⟩

-- An action gives out the next numbers to the containers that it makes.
theorem act_numbers (explorer : Explorer) (action : Action) :
    (explorer.makes action).map Container.id =
        List.range' explorer.view.results.nextId (explorer.makes action).length ∧
      (explorer.act action).view.results.nextId =
        explorer.view.results.nextId + (explorer.makes action).length := by
  cases action with
  | advance now =>
      have retexts := Formatter.tick_retexts (explorer.requested now) explorer.answered.view.results now
      obtain ⟨numbers, next⟩ := making_numbers explorer.inbox explorer
      refine ⟨numbers, ?_⟩
      rw [advance_view]
      exact retexts.nextId.trans next
  | apply command time => exact ⟨rfl, (Session.apply_remains explorer command time).1.2⟩
  | deliver completion =>
      refine ⟨rfl, ?_⟩
      unfold act deliver
      dsimp only
      split <;> rfl
  | draw width height =>
      exact ⟨rfl, (Screen.ResultsPane.drawn_frame explorer.view.results width
        (Screen.Layout.ofHeight height).results).2.1⟩
  | _ => exact ⟨rfl, rfl⟩

theorem acts_numbers (actions : List Action) (explorer : Explorer) :
    (along makes explorer actions).map Container.id =
        List.range' explorer.view.results.nextId (along makes explorer actions).length ∧
      (actions.foldl act explorer).view.results.nextId =
        explorer.view.results.nextId + (along makes explorer actions).length := by
  induction actions using List.reverseRecOn with
  | nil => exact ⟨rfl, rfl⟩
  | append_singleton actions last ih =>
      obtain ⟨numbers, next⟩ := act_numbers (actions.foldl act explorer) last
      rw [along_concat, List.foldl_append, List.foldl_cons, List.foldl_nil, List.map_append, List.length_append, next,
        numbers, ih.1, ih.2, ← Nat.add_assoc]
      exact ⟨List.range'_append_1, rfl⟩

theorem advance_accounted (explorer : Explorer) (made : List Container)
    (accounted : explorer.view.results.Accounted made) (now : Time) :
    (explorer.act (.advance now)).view.results.Accounted (made ++ explorer.makes (.advance now)) := by
  have answered := receives_accounted explorer.inbox explorer made accounted
  have retexts := Formatter.tick_retexts (explorer.requested now) explorer.answered.view.results now
  have traces := Formatter.tick_traces _ answered.distinct (explorer.requested now) _ now answered.traces
  rw [advance_view]
  exact Results.retexts_accounted _ _ _ answered retexts traces

-- What is on display is what has been made under its number.
theorem act_accounted (explorer : Explorer) (made : List Container)
    (accounted : explorer.view.results.Accounted made) (action : Action) :
    (explorer.act action).view.results.Accounted (made ++ explorer.makes action) := by
  have quiet (silent : explorer.makes action = []) (kept : (explorer.act action).view.results.Accounted made) :
      (explorer.act action).view.results.Accounted (made ++ explorer.makes action) := by
    rwa [silent, List.append_nil]
  cases action with
  | advance now => exact advance_accounted explorer made accounted now
  | apply command time =>
      exact quiet rfl (Session.remains_accounted made _ _ (Session.apply_remains explorer command time).1 accounted)
  | deliver completion =>
      refine quiet rfl ?_
      unfold act deliver
      dsimp only
      split <;> exact accounted
  | draw width height =>
      obtain ⟨_, next, length⟩ := Screen.ResultsPane.drawn_frame explorer.view.results width
        (Screen.Layout.ofHeight height).results
      refine quiet rfl ⟨Results.traces_drawn _ _ _ _ accounted.traces, accounted.distinct, ?_, ?_⟩
      · exact fun origin known => Nat.lt_of_lt_of_eq (accounted.numbered origin known) next.symm
      · exact Nat.le_trans (Nat.le_of_eq length) accounted.alone
  | _ => exact quiet rfl accounted

theorem acts_accounted (ignoreStale : Bool) (settleDelay : Time) (actions : List Action) :
    (actions.foldl act (start ignoreStale settleDelay)).view.results.Accounted
      (along makes (start ignoreStale settleDelay) actions) := by
  induction actions using List.reverseRecOn with
  | nil => exact ⟨fun _ member => (nomatch member), List.nodup_nil, fun _ member => (nomatch member), Nat.zero_le 1⟩
  | append_singleton actions last ih =>
      rw [along_concat, List.foldl_append]
      exact act_accounted _ _ ih last

-- Within an advance, when some of the tasks that are due have been handled.
def underWay (explorer : Explorer) (now : Time) (handled : List (Timer.Entry Formatter.Task)) : Formatter × Results :=
  Formatter.handleAll now handled ((explorer.requested now).takeDue now).1 explorer.answered.view.results

-- The states in which a task may be handled: any, as far as it is reached between actions or between tasks.
inductive Moment (explorer : Explorer) : Formatter × Results → Prop where
  | rest : Moment explorer (explorer.formatter, explorer.view.results)
  | working (now : Time) (handled waiting : List (Timer.Entry Formatter.Task))
      (batch : explorer.worked (.advance now) = handled ++ waiting) : Moment explorer (explorer.underWay now handled)

theorem moment_accounted (explorer : Explorer) (made : List Container)
    (accounted : explorer.view.results.Accounted made) (state : Formatter × Results) (moment : explorer.Moment state) :
    ∃ making, state.2.Accounted (made ++ making) := by
  cases moment with
  | rest => exact ⟨[], by rwa [List.append_nil]⟩
  | working now handled =>
      have answered := receives_accounted explorer.inbox explorer made accounted
      exact ⟨explorer.making explorer.inbox, Results.retexts_accounted _ _ _ answered
        (Formatter.handle_all_retexts now handled _ _)
        (Formatter.handle_all_traces _ answered.distinct now handled _ _ answered.traces)⟩

theorem pending_targets (ignoreStale : Bool) (settleDelay : Time) (actions further : List Action)
    (entry : Timer.Entry Formatter.Task) (number : ContainerId) (targets : entry.task.target? = some number) :
    let explorer := actions.foldl act (start ignoreStale settleDelay)
    entry ∈ explorer.formatter.timers.entries →
      (∃ container ∈ along makes (start ignoreStale settleDelay) actions, container.id = number) ∧
        ∀ newer ∈ along makes explorer further, number < newer.id := by
  intro explorer pending
  have below : number < explorer.view.results.nextId :=
    (acts_structured ignoreStale settleDelay actions).below entry pending number targets
  obtain ⟨numbers, next⟩ := acts_numbers actions (start ignoreStale settleDelay)
  constructor
  · refine List.mem_map.mp ?_
    rw [numbers, List.mem_range'_1, ← next]
    exact ⟨Nat.zero_le _, below⟩
  · intro newer made
    have number := List.mem_map_of_mem (f := Container.id) made
    rw [(acts_numbers further explorer).1, List.mem_range'_1] at number
    exact Nat.lt_of_lt_of_le below number.1

theorem tasks_keep_to_their_container (ignoreStale : Bool) (settleDelay : Time) (actions further : List Action) :
    let before := actions.foldl act (start ignoreStale settleDelay)
    let explorer := further.foldl act before
    let made := along makes (start ignoreStale settleDelay) actions
    let later := along makes before further
    (made ++ later).map Container.id = List.range explorer.view.results.nextId ∧
      explorer.view.results.Accounted (made ++ later) ∧
      (∀ entry ∈ before.formatter.timers.entries, ∀ number, entry.task.target? = some number →
        (∃ container ∈ made, container.id = number) ∧ ∀ newer ∈ later, number < newer.id) ∧
      ∀ state, explorer.Moment state → ∀ (now : Time) (due : Timer.Entry Formatter.Task) (number : ContainerId),
        due.task.target? = some number →
        let handled := state.1.handle state.2 now due
        state.2.Amends due.task.Reaches handled.2 ∧
          (state.2.container? number = none →
            handled.1.timers = state.1.timers ∧ handled.2 = state.2) ∧
          ∀ (place : Nat) (shown : Container), state.2.containers[place]? = some shown → shown.id ≠ number →
            handled.2.containers[place]? = some shown := by
  intro before explorer made later
  have whole : explorer = (actions ++ further).foldl act (start ignoreStale settleDelay) := List.foldl_append.symm
  have log : along makes (start ignoreStale settleDelay) (actions ++ further) = made ++ later := along_append _ _ _ _
  have accounted := acts_accounted ignoreStale settleDelay (actions ++ further)
  obtain ⟨numbers, next⟩ := acts_numbers (actions ++ further) (start ignoreStale settleDelay)
  rw [← whole, log] at accounted next
  rw [log] at numbers
  refine ⟨?_, accounted, ?_, ?_⟩
  · rw [numbers, next, List.range_eq_range']
    exact congrArg (List.range' 0) (Nat.zero_add _).symm
  · exact fun entry pending number targets =>
      pending_targets ignoreStale settleDelay actions further entry number targets pending
  · intro state moment now due number targets handled
    obtain ⟨making, present⟩ := moment_accounted explorer _ accounted state moment
    have distinct : (state.2.containers.map Container.id).Nodup := by
      refine List.nodup_iff_sublist.mpr fun number twice => ?_
      have size := twice.length_le
      rw [List.length_map] at size
      exact absurd (Nat.le_trans size present.alone) (Nat.not_succ_le_self 1)
    have amends := Formatter.handle_amends _ state.1 state.2 present.traces distinct now due
    refine ⟨amends, Formatter.handle_gone _ _ now due number targets, ?_⟩
    intro place shown here other
    refine Results.amends_untouched _ _ _ amends place shown here fun index field reached => other ?_
    exact Formatter.target_reached due.task number targets ⟨shown.id, index⟩ field reached

-- The pass over a block leaves a measurement behind, and the block is searched for again before its time comes.
def measuring : List Action :=
  let hash := Json.Value.string (String.ofList (List.replicate 64 'a'))
  [.load (some "1") 0, .dispatch, .deliver ⟨1, .success .block (.object [("hash", hash)])⟩, .advance 0, .advance 200]

def searchingAgain : List Action :=
  [.apply .focus 201, .apply (.key .enter) 202, .dispatch, .deliver ⟨2, .success .block (.object [])⟩]

theorem late_measurement_finds_nothing :
    let before := measuring.foldl act (start true 200)
    let explorer := searchingAgain.foldl act before
    let state := explorer.underWay 203 []
    let due : Timer.Entry Formatter.Task := ⟨200, 2, .measure ⟨0, 0⟩⟩
    due ∈ before.formatter.timers.entries ∧ due.task.target? = some 0 ∧ explorer.Moment state ∧
      state.2.containers.map Container.id = [1] ∧
      (state.1.handle state.2 203 due).1.timers = state.1.timers ∧ (state.1.handle state.2 203 due).2 = state.2 := by
  intro before explorer state due
  have pending : due ∈ before.formatter.timers.entries := by decide +kernel
  have shown : state.2.containers.map Container.id = [1] := by decide +kernel
  have gone : state.2.container? 0 = none := by decide +kernel
  have moment : explorer.Moment state := .working 203 [] _ (List.nil_append _).symm
  obtain ⟨_, _, _, keeps⟩ := tasks_keep_to_their_container true 200 measuring searchingAgain
  exact ⟨pending, rfl, moment, shown, (keeps state moment 203 due 0 rfl).2.1 gone⟩

end Explorer
end ChainExplorer
