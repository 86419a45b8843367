import ChainExplorer.Proofs.Explorer.Receipt
import ChainExplorer.Proofs.Screen.ResultsPane
import ChainExplorer.Proofs.Search.Submission
import ChainExplorer.Screen.Basic

set_option autoImplicit false

namespace ChainExplorer

open Search (Completion)

structure Turn where
  answers : List Completion
  closes : Bool
  now : Time
  width : Nat
  height : Nat
  command : Option (Command × Time)

namespace Turn

def times (turn : Turn) : List Time := turn.now :: (turn.command.map Prod.snd).toList

def resizes (turn : Turn) : Bool := turn.command.any fun command => command.1 = .resize

end Turn

-- An explorer at work, with the containers that it has made, each as it was made.
structure Session where
  explorer : Explorer
  made : List Container

namespace Session

-- The answers of a turn arrive.
def ready (session : Session) (turn : Turn) : Explorer :=
  let delivered := turn.answers.foldl (fun explorer answer => (explorer.deliver answer).1) session.explorer
  if turn.closes then delivered.close else delivered

-- A turn up to its drawing.
def frame (session : Session) (turn : Turn) : Session :=
  let ready := session.ready turn
  { explorer := (Screen.draw (ready.advance turn.now).1 turn.width turn.height).1
    made := session.made ++ ready.making ready.inbox }

-- The command of a turn.
def act (session : Session) (turn : Turn) : Session :=
  match turn.command with
  | none => session
  | some (command, time) => { session with explorer := (session.explorer.apply command time).1 }

def step (session : Session) (turn : Turn) : Session := (session.frame turn).act turn

def start (ignoreStale : Bool) (settleDelay : Time) (search : Option String) (now : Time) : Session :=
  ⟨(Explorer.start ignoreStale settleDelay).load search now, []⟩

-- The view with the answers of a turn, before the formatter has noticed it.
def answered (session : Session) (turn : Turn) : View :=
  ((session.ready turn).inbox.foldl Explorer.receive (session.ready turn)).view

-- The formatter once it has.
def requested (session : Session) (turn : Turn) : Formatter :=
  session.explorer.formatter.requestEach turn.now (session.answered turn).rendered

theorem ready_frame (session : Session) (turn : Turn) :
    (session.ready turn).view = session.explorer.view ∧
      (session.ready turn).formatter = session.explorer.formatter := by
  unfold ready
  rw [Explorer.delivered_inbox]
  cases turn.closes <;> exact ⟨rfl, rfl⟩

theorem frame_parts (session : Session) (turn : Turn) :
    let ticked := ((session.requested turn).tick (session.answered turn).results turn.now).1
    (session.frame turn).explorer.formatter = ticked.1 ∧
      (session.frame turn).explorer.view.results =
        Screen.ResultsPane.drawn ticked.2 turn.width (Screen.Layout.ofHeight turn.height).results ∧
      (session.frame turn).explorer.view.rendered = [] := by
  have same : session.requested turn =
      (((session.ready turn).receiveAll.noteClose).requestRendered turn.now).formatter := by
    unfold requested answered
    rw [← (ready_frame session turn).2, ← Explorer.receives_formatter (session.ready turn).inbox]
    rfl
  rw [same]
  exact ⟨rfl, rfl, rfl⟩

structure Sound (session : Session) (now : Time) (width : Nat) : Prop where
  timely : session.explorer.formatter.Timely now
  accounted : session.explorer.view.results.Accounted session.made
  measured : ∀ entry ∈ session.explorer.formatter.timers.entries, ∀ id, entry.task = .measure id →
    id.container < session.explorer.view.results.nextId
  noticed : session.explorer.view.rendered = []
  boxed : session.explorer.view.results.Boxed width

theorem start_sound (ignoreStale : Bool) (settleDelay : Time) (search : Option String) (now : Time) (width : Nat) :
    (start ignoreStale settleDelay search now).Sound now width := by
  have entries := Formatter.request_new_entries (.withDelay settleDelay) now none
  constructor
  · exact Formatter.request_timely _ now none (Formatter.start_timely settleDelay now)
  · exact ⟨fun _ member => (nomatch member), List.nodup_nil, fun _ member => (nomatch member), Nat.zero_le 1⟩
  · intro entry member id measures
    rcases entries entry member with none | passes
    · cases none
    · rw [measures] at passes
      exact absurd rfl passes
  · rfl
  · intro id field found
    cases found

theorem answered_accounted (session : Session) (turn : Turn) (now : Time) (width : Nat)
    (sound : session.Sound now width) :
    (session.answered turn).results.Accounted (session.frame turn).made := by
  refine Explorer.receives_accounted _ (session.ready turn) session.made ?_
  rw [(ready_frame session turn).1]
  exact sound.accounted

theorem answered_next (session : Session) (turn : Turn) :
    session.explorer.view.results.nextId ≤ (session.answered turn).results.nextId := by
  rw [← (ready_frame session turn).1]
  exact Explorer.receives_next _ (session.ready turn)

-- Either nothing has changed and the formatter has nothing to notice, or what is on display is new to it.
theorem answered_view (session : Session) (turn : Turn) (now : Time) (width : Nat) (sound : session.Sound now width) :
    (session.answered turn).results = session.explorer.view.results ∧
        session.requested turn = session.explorer.formatter ∨
      (session.answered turn).Fresh session.explorer.view.results.nextId := by
  have same := (ready_frame session turn).1
  rcases Explorer.receives_view (session.ready turn).inbox (session.ready turn)
    session.explorer.view.results.nextId (same ▸ Nat.le_refl _) with unchanged | fresh
  · have view : session.answered turn = session.explorer.view := unchanged.trans same
    refine .inl ⟨congrArg View.results view, ?_⟩
    unfold requested
    rw [view, sound.noticed]
    rfl
  · exact .inr fresh

theorem frame_sound (session : Session) (turn : Turn) (last : Time) (width : Nat) (sound : session.Sound last width)
    (onward : last ≤ turn.now) : (session.frame turn).Sound turn.now turn.width := by
  obtain ⟨formatter, results, rendered⟩ := frame_parts session turn
  have answered := answered_accounted session turn last width sound
  have timely := Formatter.request_each_timely _ turn.now (session.answered turn).rendered
    (Formatter.timely_later _ last turn.now sound.timely onward)
  have retexts := Formatter.tick_retexts (session.requested turn) (session.answered turn).results turn.now
  have traces := Formatter.tick_traces _ answered.distinct (session.requested turn) _ turn.now answered.traces
  have accounted := Results.retexts_accounted _ _ _ answered retexts traces
  obtain ⟨_, next, length⟩ := Screen.ResultsPane.drawn_frame
    ((session.requested turn).tick (session.answered turn).results turn.now).1.2 turn.width
    (Screen.Layout.ofHeight turn.height).results
  constructor
  · rw [formatter]
    exact Formatter.tick_timely (session.requested turn) _ turn.now turn.now timely (Nat.le_refl _)
  · rw [results]
    refine ⟨Results.traces_drawn _ _ _ _ accounted.traces, accounted.distinct, ?_, length ▸ accounted.alone⟩
    exact fun origin known => next ▸ accounted.numbered origin known
  · rw [formatter, results, next, retexts.nextId]
    intro entry member id measures
    rcases Formatter.tick_entries _ _ turn.now timely.ordered entry member with ⟨queued, _⟩ | ⟨_, other, task, shown⟩
    · rcases Formatter.request_each_new_entries _ turn.now _ entry queued with old | passes
      · exact Nat.lt_of_lt_of_le (sound.measured entry old id measures) (answered_next session turn)
      · rw [measures] at passes
        exact absurd rfl passes
    · have same : other = id := Formatter.Task.measure.inj (task.symm.trans measures)
      exact same ▸ Results.displayed_numbered _ _ answered other.container shown
  · exact rendered
  · rw [results]
    exact Screen.ResultsPane.drawn_boxed _ _ _

-- What a command may do to the results: nothing, or clear them.
def Remains (before after : Results) : Prop :=
  (after.containers = before.containers ∨ after.containers = []) ∧ after.nextId = before.nextId

theorem remains_field (before after : Results) (remains : Remains before after) (id : FieldId) (field : Field)
    (found : after.field? id = some field) : before.field? id = some field ∧ after.labels = before.labels := by
  rcases remains.1 with same | cleared
  · unfold Results.field? Results.container? at found
    rw [same] at found
    exact ⟨found, by rw [Results.labels, same]; rfl⟩
  · rw [Screen.ResultsPane.empty_field after (List.isEmpty_iff.mpr cleared) id] at found
    cases found

theorem remains_accounted (made : List Container) (before after : Results) (remains : Remains before after)
    (accounted : before.Accounted made) : after.Accounted made := by
  have kept : ∀ container ∈ after.containers, container ∈ before.containers := by
    intro container member
    rcases remains.1 with same | cleared
    · exact same ▸ member
    · rw [cleared] at member
      cases member
  refine ⟨?_, accounted.distinct, ?_, ?_⟩
  · exact fun container member => accounted.traces container (kept container member)
  · exact fun origin known => remains.2 ▸ accounted.numbered origin known
  · rcases remains.1 with same | cleared
    · exact same ▸ accounted.alone
    · rw [cleared]
      exact Nat.zero_le 1

theorem navigate_remains (explorer : Explorer) (history : Option History) :
    Remains explorer.view.results (explorer.navigate history).view.results ∧
      (explorer.navigate history).view.rendered = explorer.view.rendered ∧
      (explorer.navigate history).formatter = explorer.formatter := by
  cases history with
  | none => exact ⟨⟨.inl rfl, rfl⟩, rfl, rfl⟩
  | some history =>
      have results : (explorer.navigate (some history)).view.results =
          (explorer.controller.restore explorer.view.results history.current).2.1 := rfl
      refine ⟨?_, rfl, rfl⟩
      rw [results]
      rcases Search.Controller.restore_results explorer.controller explorer.view.results history.current with
        same | cleared
      · rw [same]
        exact ⟨.inl rfl, rfl⟩
      · rw [cleared]
        exact ⟨.inr rfl, rfl⟩

theorem apply_remains (explorer : Explorer) (command : Command) (time : Time) :
    Remains explorer.view.results (explorer.apply command time).1.view.results ∧
      (explorer.apply command time).1.view.rendered = explorer.view.rendered := by
  cases command with
  | back => exact ⟨(navigate_remains explorer _).1, (navigate_remains explorer _).2.1⟩
  | forward => exact ⟨(navigate_remains explorer _).1, (navigate_remains explorer _).2.1⟩
  | key key =>
      unfold Explorer.apply
      dsimp only
      split <;> exact ⟨⟨.inl rfl, rfl⟩, rfl⟩
  | _ => exact ⟨⟨.inl rfl, rfl⟩, rfl⟩

theorem apply_formatter (explorer : Explorer) (command : Command) (time : Time) (goesOn : command ≠ .quit) :
    (explorer.apply command time).1.formatter =
      if command = .resize then (explorer.formatter.request time none).1 else explorer.formatter := by
  cases command with
  | back => exact (navigate_remains explorer _).2.2
  | forward => exact (navigate_remains explorer _).2.2
  | key key =>
      unfold Explorer.apply
      dsimp only
      split <;> rfl
  | quit => exact absurd rfl goesOn
  | _ => rfl

theorem act_sound (session : Session) (turn : Turn) (now later : Time) (width : Nat)
    (sound : session.Sound now width)
    (goesOn : ∀ command time, turn.command = some (command, time) → command ≠ .quit ∧ now ≤ time ∧ time ≤ later)
    (onward : now ≤ later) : (session.act turn).Sound later width := by
  unfold act
  cases issued : turn.command with
  | none =>
      exact ⟨Formatter.timely_later _ now later sound.timely onward, sound.accounted, sound.measured, sound.noticed,
        sound.boxed⟩
  | some command =>
      obtain ⟨command, time⟩ := command
      obtain ⟨stays, after, before⟩ := goesOn command time issued
      obtain ⟨remains, rendered⟩ := apply_remains session.explorer command time
      have formatter := apply_formatter session.explorer command time stays
      constructor
      · dsimp only
        rw [formatter]
        refine Formatter.timely_later _ time later ?_ before
        have timely := Formatter.timely_later _ now time sound.timely after
        split
        · exact Formatter.request_timely _ time none timely
        · exact timely
      · exact remains_accounted _ _ _ remains sound.accounted
      · dsimp only
        rw [formatter, remains.2]
        intro entry member id measures
        split at member
        · rcases Formatter.request_new_entries _ time none entry member with old | passes
          · exact sound.measured entry old id measures
          · rw [measures] at passes
            exact absurd rfl passes
        · exact sound.measured entry member id measures
      · exact rendered.trans sound.noticed
      · intro id field found
        obtain ⟨here, labels⟩ := remains_field _ _ remains id field found
        rw [Screen.ResultsPane.value_width_labels _ _ width labels]
        exact sound.boxed id field here

end Session
end ChainExplorer
