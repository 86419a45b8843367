import ChainExplorer.Proofs.Explorer.Debounce
import ChainExplorer.Proofs.Explorer.Dropped

set_option autoImplicit false

namespace ChainExplorer

open Search (Completion Controller Outcome Result)

namespace Search

def Outcome.isRendered : Outcome → Bool
  | .rendered _ => true
  | _ => false

theorem Result.rendered_iff (result : Result) : result.outcome.isRendered ↔ result.rendering?.isSome := by
  unfold Result.outcome Result.rendering?
  cases result.succeeded with
  | false => simp [Outcome.isRendered]
  | true => cases result.kind <;> simp [Outcome.isRendered, Kind.aspect?]

theorem Controller.rendered_rendering (controller : Controller) (completion : Completion)
    (shown : (controller.outcome completion).isRendered) :
    ∃ rendering, completion.result.rendering? = some rendering ∧
      controller.rendering? completion = some rendering := by
  unfold outcome at shown
  by_cases stale : controller.isStale completion.id
  · rw [if_pos stale] at shown
    cases shown
  · rw [if_neg stale, Result.rendered_iff] at shown
    obtain ⟨rendering, found⟩ := Option.isSome_iff_exists.mp shown
    exact ⟨rendering, found, by rw [rendering?, if_neg stale, found]⟩

theorem Controller.unrendered_rendering (controller : Controller) (completion : Completion)
    (hidden : ¬ (controller.outcome completion).isRendered) : controller.rendering? completion = none := by
  unfold outcome at hidden
  unfold rendering?
  by_cases stale : controller.isStale completion.id
  · exact if_pos stale
  · rw [if_neg stale, Result.rendered_iff, Option.not_isSome_iff_eq_none] at hidden
    rw [if_neg stale, hidden]

-- What comes of an answer depends on what was sent, which no answer changes.
theorem Controller.outcome_respond (controller : Controller) (earlier completion : Completion) :
    (controller.respond earlier).outcome completion = controller.outcome completion := by
  obtain ⟨filter, _, latest⟩ := respond_frame controller earlier
  unfold outcome isStale
  rw [filter, latest]

end Search

namespace Formatter

theorem request_each_perm (formatter : Formatter) (now : Time) (containers : List ContainerId) :
    (formatter.requestEach now containers).timers.entries.Perm
      (formatter.askedEach now containers ++ formatter.timers.entries) := by
  induction containers generalizing formatter with
  | nil => exact List.Perm.refl _
  | cons container rest ih =>
      have first := Timer.schedule_perm formatter.timers now formatter.settleDelay (.containerPass container)
      refine (ih (formatter.request now (some container)).1).trans ?_
      exact (first.append_left _).trans List.perm_middle

-- Passes over containers with neighbouring numbers have neighbouring numbers themselves.
theorem asked_each_row (now : Time) (count : Nat) (formatter : Formatter) (number : ContainerId) :
    formatter.askedEach now (List.range' number count) =
      (List.range count).map fun index =>
        ⟨now + formatter.settleDelay, formatter.timers.nextId + index, .containerPass (number + index)⟩ := by
  induction count generalizing formatter number with
  | zero => rfl
  | succ count ih =>
      have next : (formatter.request now (some number)).1.timers.nextId = formatter.timers.nextId + 1 := rfl
      rw [List.range'_succ, askedEach, ih, List.range_succ_eq_map, List.map_cons, List.map_map, next]
      refine congrArg₂ _ rfl (List.map_congr_left fun index _ => ?_)
      simp only [Function.comp_apply, Nat.succ_eq_add_one, Nat.add_assoc, Nat.add_comm 1 index]
      rfl

theorem asked_each_sorted (formatter : Formatter) (now : Time) (containers : List ContainerId) :
    (formatter.askedEach now containers).Pairwise fun a b => a.before b := by
  have numbers : ((formatter.askedEach now containers).map Timer.Entry.id).Pairwise (· < ·) := by
    rw [(asked_each_numbers formatter now containers).1]
    exact List.pairwise_lt_range'
  refine (List.pairwise_map.mp numbers).imp_of_mem ?_
  intro a b first second less
  have sameTime := (asked_each_pass formatter now containers a first).1.trans
    (asked_each_pass formatter now containers b second).1.symm
  exact (Timer.before_iff a b).mpr (.inr ⟨sameTime, less⟩)

theorem asked_each_new (formatter : Formatter) (now : Time) (containers : List ContainerId) (entry : Timer.Entry Task)
    (asked : entry ∈ formatter.askedEach now containers) : formatter.timers.nextId ≤ entry.id := by
  have number := List.mem_map_of_mem (f := Timer.Entry.id) asked
  rw [(asked_each_numbers formatter now containers).1] at number
  exact (List.mem_range'_1.mp number).1

-- The old entries and the new passes lie side by side in the queue, each in order.
theorem request_each_split (formatter : Formatter) (ordered : formatter.timers.Ordered) (now : Time)
    (containers : List ContainerId) :
    let entries := (formatter.requestEach now containers).timers.entries
    (entries.filter fun entry => entry.id < formatter.timers.nextId) = formatter.timers.entries ∧
      (entries.filter fun entry => formatter.timers.nextId ≤ entry.id) = formatter.askedEach now containers := by
  intro entries
  have sorted : entries.Pairwise fun a b => a.before b := by
    refine (List.foldlRecOn (motive := fun after : Formatter => after.timers.Ordered) containers _ ordered ?_).sorted
    intro after before container _
    exact Timer.schedule_ordered _ _ _ _ before
  have unique (a b : Timer.Entry Task) (first : a.before b) (second : b.before a) : a = b :=
    absurd second (Timer.before_asymm a b first)
  have whole := request_each_perm formatter now containers
  constructor
  · refine List.Perm.eq_of_pairwise (fun a b _ _ => unique a b) (sorted.sublist List.filter_sublist) ordered.sorted ?_
    refine (whole.filter _).trans (List.Perm.of_eq ?_)
    rw [List.filter_append, List.filter_eq_nil_iff.mpr, List.filter_eq_self.mpr, List.nil_append]
    · intro entry member
      simpa using ordered.fresh entry member
    · intro entry asked
      simpa using asked_each_new formatter now containers entry asked
  · refine List.Perm.eq_of_pairwise (fun a b _ _ => unique a b) (sorted.sublist List.filter_sublist)
      (asked_each_sorted formatter now containers) ?_
    refine (whole.filter _).trans (List.Perm.of_eq ?_)
    rw [List.filter_append, List.filter_eq_self.mpr, List.filter_eq_nil_iff.mpr, List.append_nil]
    · intro entry member
      simpa using ordered.fresh entry member
    · intro entry asked
      simpa using asked_each_new formatter now containers entry asked

end Formatter

namespace Explorer

def Idle (explorer : Explorer) (now : Time) : Prop := ∀ entry ∈ explorer.formatter.timers.entries, now < entry.deadline

-- Answers arrive behind those that wait.
def queue (explorer : Explorer) (answers : List Completion) : Explorer :=
  { explorer with inbox := explorer.inbox ++ answers }

-- The explorer advanced once for all answers, and after each of them.
def together (explorer : Explorer) (answers : List Completion) (now : Time) : Explorer :=
  ((explorer.queue answers).advance now).1

def singly (explorer : Explorer) (answers : List Completion) (now : Time) : Explorer :=
  answers.foldl (fun explorer answer => explorer.together [answer] now) explorer

-- The formatter notices what has been put on display.
def noticed (explorer : Explorer) (now : Time) : Explorer :=
  { explorer.noteClose.requestRendered now with inbox := [] }

theorem deliver_queues (answers : List Completion) (explorer : Explorer) (connected : explorer.connected = true) :
    answers.foldl (fun explorer answer => (explorer.deliver answer).1) explorer = explorer.queue answers := by
  rw [delivered_inbox, if_pos connected]
  rfl

theorem receives_inbox (answers inbox : List Completion) (explorer : Explorer) :
    answers.foldl receive { explorer with inbox } = { answers.foldl receive explorer with inbox } := by
  induction answers generalizing explorer with
  | nil => rfl
  | cons answer rest ih => exact ih (explorer.receive answer)

theorem noticed_idle (explorer : Explorer) (now : Time) (delayed : 0 < explorer.formatter.settleDelay)
    (idle : explorer.Idle now) : (explorer.noticed now).Idle now := by
  intro entry member
  rcases (Formatter.request_each_entries explorer.formatter now explorer.view.rendered entry).mp member with asked | old
  · rw [(Formatter.asked_each_pass _ _ _ _ asked).1]
    exact Nat.lt_add_of_pos_right delayed
  · exact idle entry old

theorem noticed_delay (explorer : Explorer) (now : Time) :
    (explorer.noticed now).formatter.settleDelay = explorer.formatter.settleDelay :=
  (Formatter.request_each_continues explorer.formatter now explorer.view.rendered).delay

-- Where nothing comes due, all that is done is to receive and to notice.
theorem together_notices (explorer : Explorer) (answers : List Completion) (now : Time) (drained : explorer.inbox = [])
    (delayed : 0 < explorer.formatter.settleDelay) (idle : explorer.Idle now) :
    explorer.together answers now = (answers.foldl receive explorer).noticed now := by
  have arrived : explorer.queue answers = { explorer with inbox := answers } := by rw [queue, drained, List.nil_append]
  have unchanged := receives_formatter answers explorer
  have waits : (answers.foldl receive explorer).Idle now := by rwa [Idle, unchanged]
  have later := noticed_idle _ now (unchanged ▸ delayed) waits
  have ready : (explorer.queue answers).receiveAll.noteClose.requestRendered now =
      (answers.foldl receive explorer).noticed now := by
    unfold receiveAll
    rw [arrived]
    dsimp only
    rw [receives_inbox]
    rfl
  unfold together advance
  rw [ready]
  unfold format
  rw [Formatter.tick_idle _ _ now later]

-- What was noticed before an answer need not have been noticed before it.
theorem receive_noticed (explorer : Explorer) (answer : Completion) (now : Time) :
    ((explorer.noticed now).receive answer).noticed now = (explorer.receive answer).noticed now := by
  unfold receive noticed requestRendered noteClose View.takeRendered
  dsimp only
  cases explorer.controller.rendering? answer with
  | none => simp
  | some rendering => simp [View.render, View.present, Results.create, Results.replace, Results.clear, Results.push,
      List.foldl_append]

theorem singly_noticed (answers : List Completion) (explorer : Explorer) (now : Time)
    (delayed : 0 < explorer.formatter.settleDelay) (idle : explorer.Idle now) :
    (explorer.noticed now).singly answers now = (answers.foldl receive explorer).noticed now := by
  induction answers generalizing explorer with
  | nil => rfl
  | cons answer rest ih =>
      have first : (explorer.noticed now).together [answer] now = (explorer.receive answer).noticed now := by
        rw [together_notices _ _ now rfl (noticed_delay explorer now ▸ delayed) (noticed_idle explorer now delayed idle)]
        exact receive_noticed explorer answer now
      unfold singly at ih ⊢
      rw [List.foldl_cons, first]
      exact ih (explorer.receive answer) delayed idle

theorem receives_outcome (answers : List Completion) (explorer : Explorer) (completion : Completion) :
    (answers.foldl receive explorer).controller.outcome completion = explorer.controller.outcome completion := by
  refine List.foldlRecOn (motive := fun after : Explorer =>
    after.controller.outcome completion = explorer.controller.outcome completion) answers _ rfl ?_
  intro after before earlier _
  exact (Controller.outcome_respond after.controller earlier completion).trans before

-- The answers of which an object is shown.
def shown (explorer : Explorer) (answers : List Completion) : List Completion :=
  answers.filter fun answer => (explorer.controller.outcome answer).isRendered

-- The results with the object of an answer, in a container with the given number.
def Displays (results : Results) (number : ContainerId) (answer : Completion) : Prop :=
  ∃ rendering, answer.result.rendering? = some rendering ∧
    results = ⟨[⟨number, rendering.aspect.title, rendering.aspect.fields rendering.object⟩], number + 1, 0⟩

-- What is left on display, and noted for the formatter, when answers have been shown.
structure Shows (before after : Explorer) (shown : List Completion) : Prop where
  rendered : after.view.rendered =
    before.view.rendered ++ List.range' before.view.results.nextId shown.length
  next : after.view.results.nextId = before.view.results.nextId + shown.length
  unchanged : shown = [] → after.view.results = before.view.results
  last : ∀ answer, shown.getLast? = some answer →
    Displays after.view.results (before.view.results.nextId + (shown.length - 1)) answer

theorem receive_displays (explorer : Explorer) (answer : Completion)
    (renders : (explorer.controller.outcome answer).isRendered) :
    Displays (explorer.receive answer).view.results explorer.view.results.nextId answer ∧
      (explorer.receive answer).view.rendered = explorer.view.rendered ++ [explorer.view.results.nextId] := by
  obtain ⟨rendering, found, counts⟩ := Controller.rendered_rendering explorer.controller answer renders
  unfold receive
  rw [counts]
  exact ⟨⟨rendering, found, rfl⟩, rfl⟩

theorem receive_hidden (explorer : Explorer) (answer : Completion)
    (hidden : ¬ (explorer.controller.outcome answer).isRendered) :
    (explorer.receive answer).view = explorer.view := by
  unfold receive
  rw [Controller.unrendered_rendering explorer.controller answer hidden]

theorem receives_shows (answers : List Completion) (explorer : Explorer) :
    Shows explorer (answers.foldl receive explorer) (explorer.shown answers) := by
  induction answers using List.reverseRecOn with
  | nil => exact ⟨(List.append_nil _).symm, rfl, fun _ => rfl, fun _ last => nomatch last⟩
  | append_singleton front answer ih =>
      have outcome := receives_outcome front explorer answer
      rw [List.foldl_append, List.foldl_cons, List.foldl_nil]
      by_cases renders : (explorer.controller.outcome answer).isRendered
      · have longer : explorer.shown (front ++ [answer]) = explorer.shown front ++ [answer] := by
          simp [shown, List.filter_append, renders]
        obtain ⟨displays, rendered⟩ := receive_displays (front.foldl receive explorer) answer (outcome ▸ renders)
        rw [longer]
        constructor
        · rw [rendered, ih.rendered, ih.next, List.append_assoc, List.length_append, List.length_singleton,
            List.range'_concat, Nat.one_mul]
        · obtain ⟨rendering, _, same⟩ := displays
          rw [same, ih.next, List.length_append, List.length_singleton, Nat.add_assoc]
        · intro none
          exact absurd none (List.concat_ne_nil _ _)
        · intro last found
          rw [List.getLast?_concat] at found
          rw [← Option.some.inj found, List.length_append, List.length_singleton, Nat.add_sub_cancel, ← ih.next]
          exact displays
      · have same : explorer.shown (front ++ [answer]) = explorer.shown front := by
          simp [shown, List.filter_append, renders]
        have view := receive_hidden (front.foldl receive explorer) answer (outcome ▸ renders)
        rw [same]
        exact ⟨view ▸ ih.rendered, view ▸ ih.next, view ▸ ih.unchanged, view ▸ ih.last⟩

theorem noticed_at_rest (explorer : Explorer) (now : Time) (drained : explorer.inbox = [])
    (rested : explorer.view.rendered = []) :
    explorer.noticed now = { explorer with closeNoted := explorer.closeNoted || !explorer.connected } := by
  have view : { explorer.view with rendered := [] } = explorer.view := by rw [← rested]
  unfold noticed requestRendered noteClose View.takeRendered
  dsimp only
  rw [view, rested, ← drained]
  rfl

theorem singly_together (answers : List Completion) (explorer : Explorer) (now : Time) (drained : explorer.inbox = [])
    (delayed : 0 < explorer.formatter.settleDelay) (idle : explorer.Idle now) (some : answers ≠ []) :
    explorer.singly answers now = explorer.together answers now := by
  cases answers with
  | nil => exact absurd rfl some
  | cons answer rest =>
      rw [together_notices explorer _ now drained delayed idle]
      unfold singly
      rw [List.foldl_cons, together_notices explorer [answer] now drained delayed idle]
      exact singly_noticed rest (explorer.receive answer) now delayed idle

theorem batching_makes_no_difference (ignoreStale : Bool) (settleDelay : Time) (delayed : 0 < settleDelay)
    (actions : List Action) (now : Time) :
    let explorer := actions.foldl act (start ignoreStale settleDelay)
    explorer.inbox = [] → explorer.Idle now → ∀ answers : List Completion,
      let together := explorer.together answers now
      let singly := explorer.singly answers now
      let shown := explorer.shown answers
      let first := explorer.formatter.timers.nextId
      let number := explorer.view.results.nextId
      (explorer.connected = true →
          answers.foldl (fun explorer answer => (explorer.deliver answer).1) explorer = explorer.queue answers) ∧
        (answers ≠ [] → singly = together) ∧ { singly with closeNoted := together.closeNoted } = together ∧
        (∀ earlier answer later, answers = earlier ++ answer :: later →
          (earlier.foldl receive explorer).controller.outcome answer = explorer.controller.outcome answer) ∧
        (shown = [] → together.view.results = explorer.view.results) ∧
        (∀ answer, shown.getLast? = some answer →
          Displays together.view.results (number + (shown.length - 1)) answer) ∧
        (together.formatter.timers.entries.filter fun entry => entry.id < first) =
          explorer.formatter.timers.entries ∧
        (together.formatter.timers.entries.filter fun entry => first ≤ entry.id) =
          (List.range shown.length).map fun index =>
            ⟨now + settleDelay, first + index, .containerPass (number + index)⟩ := by
  intro explorer drained idle answers together singly shown first number
  have delay : explorer.formatter.settleDelay = settleDelay := acts_delay ignoreStale settleDelay actions
  have rested : explorer.view.rendered = [] := (acts_structured ignoreStale settleDelay actions).noticed
  have ordered := (acts_accountable ignoreStale settleDelay actions).consistent.ordered
  have merged : together = (answers.foldl receive explorer).noticed now :=
    together_notices explorer answers now drained (delay ▸ delayed) idle
  have rest := noticed_at_rest explorer now drained rested
  have shows := receives_shows answers explorer
  have unchanged := receives_formatter answers explorer
  have formatter : together.formatter = explorer.formatter.requestEach now (List.range' number shown.length) := by
    have rendered : (answers.foldl receive explorer).view.rendered = List.range' number shown.length := by
      rw [shows.rendered, rested, List.nil_append]
    rw [merged, ← unchanged, ← rendered]
    rfl
  have results : together.view.results = (answers.foldl receive explorer).view.results := by
    rw [merged]
    rfl
  have entries := Formatter.request_each_split explorer.formatter ordered now (List.range' number shown.length)
  rw [Formatter.asked_each_row, delay] at entries
  refine ⟨deliver_queues answers explorer, singly_together answers explorer now drained (delay ▸ delayed) idle, ?_, ?_,
    ?_, ?_, ?_, ?_⟩
  · cases answers with
    | nil =>
        rw [merged]
        exact (congrArg (fun rested : Explorer => { explorer with closeNoted := rested.closeNoted }) rest).trans rest.symm
    | cons answer later =>
        have same : singly = together :=
          singly_together _ explorer now drained (delay ▸ delayed) idle (List.cons_ne_nil answer later)
        rw [same]
  · exact fun earlier answer later _ => receives_outcome earlier explorer answer
  · exact fun none => results.trans (shows.unchanged none)
  · exact fun answer last => results ▸ shows.last answer last
  · rw [formatter]
    exact entries.1
  · rw [formatter]
    exact entries.2

-- Two searches are under way when five answers have piled up. The first is stale, and two of the others show an
-- object.
def piledUp : List Completion :=
  [⟨1, .success .block (.object [("hash", .string "00aa")])⟩, ⟨2, .success .address .null⟩, ⟨2, .failure "no"⟩,
    ⟨2, .success .transaction (.object [("hash", .string "00bb")])⟩, ⟨2, .success (.unknown "TOKEN") .null⟩]

def searchingTwice : List Action := [.load (some "1") 0, .apply .focus 3, .apply (.key .enter) 4, .dispatch]

theorem piled_up_answers_make_two_passes :
    let explorer := searchingTwice.foldl act (start true 200)
    0 < 200 ∧ explorer.inbox = [] ∧ explorer.Idle 7 ∧ piledUp ≠ [] ∧
      explorer.singly piledUp 7 = explorer.together piledUp 7 ∧
      ((explorer.together piledUp 7).formatter.timers.entries.filter fun entry => 1 ≤ entry.id) =
        [⟨207, 1, .containerPass 0⟩, ⟨207, 2, .containerPass 1⟩] := by
  intro explorer
  have drained : explorer.inbox = [] := List.eq_nil_of_length_eq_zero (by decide +kernel)
  have idle : explorer.Idle 7 := by unfold Idle; decide +kernel
  obtain ⟨_, same, _, _, _, _, _, passes⟩ :=
    batching_makes_no_difference true 200 (by decide) searchingTwice 7 drained idle piledUp
  refine ⟨by decide, drained, idle, List.cons_ne_nil _ _, same (List.cons_ne_nil _ _), ?_⟩
  have first : explorer.formatter.timers.nextId = 1 := by decide +kernel
  rw [first] at passes
  exact passes.trans (by decide +kernel)

end Explorer
end ChainExplorer
