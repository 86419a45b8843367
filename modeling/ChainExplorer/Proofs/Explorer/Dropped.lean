import ChainExplorer.Proofs.Explorer.Loading
import ChainExplorer.Proofs.Explorer.Structure
import Mathlib.Data.List.TakeWhile

set_option autoImplicit false

namespace ChainExplorer

open Search (Completion Controller)

-- Where nothing is due, nothing is done.
theorem Formatter.tick_idle (formatter : Formatter) (results : Results) (now : Time)
    (waiting : ∀ entry ∈ formatter.timers.entries, now < entry.deadline) :
    formatter.tick results now = ((formatter, results), []) := by
  have none : (formatter.timers.entries.takeWhile fun entry => decide (entry.deadline ≤ now)) = [] := by
    rw [List.takeWhile_eq_nil_iff]
    intro inside
    simpa using waiting _ (List.get_mem _ ⟨0, inside⟩)
  have all : (formatter.timers.entries.dropWhile fun entry => decide (entry.deadline ≤ now)) =
      formatter.timers.entries := by
    have whole := List.takeWhile_append_dropWhile (p := fun entry : Timer.Entry Formatter.Task =>
      decide (entry.deadline ≤ now)) (l := formatter.timers.entries)
    rwa [none, List.nil_append] at whole
  unfold tick takeDue Timer.Queue.takeDue
  rw [none, all]
  simp

-- A line of no spans is blank.
theorem Screen.blank_rows (width height : Nat) : Line.rows [] width height = blankRows width height := by
  cases height with
  | zero => rfl
  | succ below => rfl

theorem Screen.StatusBar.quiet_rows (outcome : Option Search.Outcome) (quiet : outcome = none ∨ outcome = some .stale)
    (width height : Nat) : StatusBar.rows outcome width height = blankRows width height := by
  rcases quiet with rfl | rfl <;> exact blank_rows width height

namespace Explorer

def helpBar (explorer : Explorer) : Screen.HelpBar :=
  ⟨explorer.controller.focused, explorer.view.history.canGoBack, explorer.view.history.canGoForward⟩

theorem receives_stale (answers : List Completion) (explorer : Explorer)
    (stale : ∀ completion ∈ answers, explorer.controller.isStale completion.id) :
    answers.foldl receive explorer =
      { explorer with lastOutcome := if answers = [] then explorer.lastOutcome else some .stale } := by
  induction answers generalizing explorer with
  | nil => rfl
  | cons completion rest ih =>
      obtain ⟨first, later⟩ := List.forall_mem_cons.mp stale
      rw [List.foldl_cons, receive_stale explorer completion first]
      refine (ih { explorer with lastOutcome := some .stale } later).trans ?_
      simp

-- Where nothing is due and answers leave nothing but the controller and an outcome changed, so does the advance.
theorem advance_answered (explorer : Explorer) (now : Time) (controller : Controller)
    (lastOutcome : Option Search.Outcome)
    (answered : explorer.inbox.foldl receive explorer = { explorer with controller, lastOutcome })
    (noticed : explorer.view.rendered = [])
    (waiting : ∀ entry ∈ explorer.formatter.timers.entries, now < entry.deadline) :
    explorer.advance now =
      ({ explorer with
          inbox := []
          controller
          closeNoted := explorer.closeNoted || !explorer.connected
          lastOutcome },
       !explorer.inbox.isEmpty) := by
  have taken : explorer.view.takeRendered = (explorer.view, []) := by
    unfold View.takeRendered
    rw [← noticed]
  unfold advance receiveAll noteClose requestRendered format
  rw [answered]
  dsimp only
  rw [taken]
  dsimp only [List.foldl_nil]
  rw [Formatter.tick_idle _ _ now waiting]
  simp

theorem advance_drops (explorer : Explorer) (now : Time) (noticed : explorer.view.rendered = [])
    (waiting : ∀ entry ∈ explorer.formatter.timers.entries, now < entry.deadline)
    (stale : ∀ completion ∈ explorer.inbox, explorer.controller.isStale completion.id) :
    explorer.advance now =
      ({ explorer with
          inbox := []
          closeNoted := explorer.closeNoted || !explorer.connected
          lastOutcome := if explorer.inbox = [] then explorer.lastOutcome else some .stale },
       !explorer.inbox.isEmpty) :=
  advance_answered explorer now _ _ (receives_stale explorer.inbox explorer stale) noticed waiting

theorem older_stale (explorer : Explorer) (filtering : explorer.controller.ignoreStale = true) (completion : Completion)
    (older : ∃ latest, explorer.controller.latest = some latest ∧ completion.id < latest) :
    explorer.controller.isStale completion.id := by
  obtain ⟨latest, asked, earlier⟩ := older
  rw [Controller.stale_when_filtering _ filtering, asked]
  exact fun same => Nat.ne_of_gt earlier (Option.some.inj same)

theorem reachable_noticed (explorer : Explorer) (reachable : explorer.Reachable) : explorer.view.rendered = [] := by
  obtain ⟨settleDelay, actions, same⟩ := reachable
  exact same ▸ (acts_structured true settleDelay actions).noticed

theorem draw_rows (explorer : Explorer) (width height : Nat) :
    let layout := Screen.Layout.ofHeight height
    (Screen.draw explorer width height).2 =
      explorer.searchBar.rows width layout.search ++ Screen.ResultsPane.rows explorer.view.results width layout.results
        ++ Screen.StatusBar.rows explorer.lastOutcome width layout.status
        ++ explorer.helpBar.rows width layout.help := rfl

theorem dropped_answers_leave_no_other_trace (explorer : Explorer) (reachable : explorer.Reachable) (now : Time)
    (waiting : ∀ entry ∈ explorer.formatter.timers.entries, now < entry.deadline)
    (older : ∀ completion ∈ explorer.inbox,
      ∃ latest, explorer.controller.latest = some latest ∧ completion.id < latest) :
    let after := (explorer.advance now).1
    after =
        { explorer with
          inbox := []
          closeNoted := explorer.closeNoted || !explorer.connected
          lastOutcome := if explorer.inbox = [] then explorer.lastOutcome else some .stale } ∧
      ∀ width height,
        let layout := Screen.Layout.ofHeight height
        let above := explorer.searchBar.rows width layout.search
          ++ Screen.ResultsPane.rows explorer.view.results width layout.results
        let status := Screen.StatusBar.rows explorer.lastOutcome width layout.status
        let below := explorer.helpBar.rows width layout.help
        (Screen.draw explorer width height).2 = above ++ status ++ below ∧
          (Screen.draw after width height).2 =
            above ++ (if explorer.inbox = [] then status else Screen.blankRows width layout.status) ++ below ∧
          (explorer.inbox = [] ∨ explorer.lastOutcome = none ∨ explorer.lastOutcome = some .stale →
            (Screen.draw after width height).2 = (Screen.draw explorer width height).2) ∧
          (Screen.draw after width height).1.view = (Screen.draw explorer width height).1.view := by
  intro after
  have filtering := (reachable_steady explorer reachable).filtering
  have dropped := advance_drops explorer now (reachable_noticed explorer reachable) waiting fun completion member =>
    older_stale explorer filtering completion (older completion member)
  have left : after = _ := congrArg Prod.fst dropped
  refine ⟨left, ?_⟩
  intro width height layout above status below
  have before : (Screen.draw explorer width height).2 = above ++ status ++ below := draw_rows explorer width height
  have screen : (Screen.draw after width height).2 =
      above ++ (if explorer.inbox = [] then status else Screen.blankRows width layout.status) ++ below := by
    rw [draw_rows, left]
    dsimp only
    split
    · rfl
    · rw [Screen.StatusBar.quiet_rows _ (.inr rfl)]
      rfl
  refine ⟨before, screen, ?_, by rw [left]; rfl⟩
  intro unsaid
  rw [screen, before]
  split
  · rfl
  · rename_i answered
    rw [← Screen.StatusBar.quiet_rows explorer.lastOutcome (unsaid.resolve_left answered)]

-- The second of two searches has failed, which the status bar says, when the first is answered too.
def overtaken : Explorer :=
  List.foldl act (.start true 200)
    [.load (some "1") 0, .apply .focus 0, .apply (.key .enter) 0, .deliver ⟨2, .failure "no"⟩, .advance 0,
      .deliver ⟨1, .failure "late"⟩]

theorem overtaken_older : ∀ completion ∈ overtaken.inbox,
    ∃ latest, overtaken.controller.latest = some latest ∧ completion.id < latest := by
  have latest : overtaken.controller.latest = some 2 := by decide +kernel
  have numbers : ∀ completion ∈ overtaken.inbox, completion.id < 2 := by decide +kernel
  exact fun completion member => ⟨2, latest, numbers completion member⟩

theorem overtaken_drops_the_first :
    overtaken.Reachable ∧ (∀ entry ∈ overtaken.formatter.timers.entries, 0 < entry.deadline) ∧
      (∀ completion ∈ overtaken.inbox,
        ∃ latest, overtaken.controller.latest = some latest ∧ completion.id < latest) ∧
      overtaken.inbox ≠ [] ∧
      (overtaken.advance 0).1 = { overtaken with inbox := [], lastOutcome := some .stale } := by
  have reachable : overtaken.Reachable := ⟨200, _, rfl⟩
  have waiting : ∀ entry ∈ overtaken.formatter.timers.entries, 0 < entry.deadline := by decide +kernel
  have arrived : overtaken.inbox ≠ [] := by
    intro empty
    have size := congrArg List.length empty
    revert size
    decide +kernel
  have unnoted : (overtaken.closeNoted || !overtaken.connected) = overtaken.closeNoted := by decide +kernel
  have after := (dropped_answers_leave_no_other_trace overtaken reachable 0 waiting overtaken_older).1
  rw [if_neg arrived, unnoted] at after
  exact ⟨reachable, waiting, overtaken_older, arrived, after⟩

theorem dropped_answer_clears_the_status :
    ¬ ∀ (explorer : Explorer) (now : Time), explorer.Reachable →
      (∀ entry ∈ explorer.formatter.timers.entries, now < entry.deadline) →
      (∀ completion ∈ explorer.inbox,
        ∃ latest, explorer.controller.latest = some latest ∧ completion.id < latest) →
      ∀ width height,
        (Screen.draw (explorer.advance now).1 width height).2 = (Screen.draw explorer width height).2 := by
  intro claim
  have same := claim overtaken 0 ⟨200, _, rfl⟩ (by decide +kernel) overtaken_older 40 8
  revert same
  decide +kernel

end Explorer
end ChainExplorer
