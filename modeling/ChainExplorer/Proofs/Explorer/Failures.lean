import ChainExplorer.Proofs.Explorer.Batching
import ChainExplorer.Proofs.Explorer.Workers

set_option autoImplicit false

namespace ChainExplorer

open Search (Backend BackendError Completion Controller Outcome Request Result)

namespace Search

-- The search failed, or it found something of a kind that nobody knows.
def Result.ShowsNothing (result : Result) : Prop := result.succeeded = false ∨ ∃ name, result.kind = .unknown name

theorem Result.failure_shows_nothing (message : String) : (Result.failure message).ShowsNothing := .inl rfl

theorem Result.nothing_outcome (result : Result) (nothing : result.ShowsNothing) :
    (result.succeeded = false → result.outcome = .failed result.errorMessage) ∧
      (result.succeeded = true → ∃ name, result.kind = .unknown name ∧ result.outcome = .unknownKind name) := by
  unfold outcome
  constructor
  · intro failed
    rw [failed, if_neg Bool.false_ne_true]
  · intro succeeded
    obtain ⟨name, unknown⟩ := nothing.resolve_left (by simp [succeeded])
    rw [succeeded, if_pos rfl, unknown]
    exact ⟨name, rfl, rfl⟩

theorem Controller.nothing_unrendered (controller : Controller) (completion : Completion)
    (nothing : completion.result.ShowsNothing) : ¬ (controller.outcome completion).isRendered := by
  obtain ⟨failed, unknown⟩ := completion.result.nothing_outcome nothing
  unfold outcome
  split
  · exact Bool.false_ne_true
  · cases succeeded : completion.result.succeeded with
    | false =>
        rw [failed succeeded]
        exact Bool.false_ne_true
    | true =>
        obtain ⟨name, _, same⟩ := unknown succeeded
        rw [same]
        exact Bool.false_ne_true

-- Answers touch nothing of the controller but the indicator, which lasts as long as all of them are stale.
theorem Controller.responds (answers : List Completion) (controller : Controller) :
    answers.foldl respond controller =
      { controller with
        loading := controller.loading && answers.all fun completion => controller.isStale completion.id } := by
  induction answers generalizing controller with
  | nil => simp
  | cons completion rest ih =>
      rw [List.foldl_cons, ih, List.all_cons]
      by_cases stale : controller.isStale completion.id
      · rw [respond_stale controller completion stale, stale, Bool.true_and]
      · have answered : controller.respond completion = { controller with loading := false } := if_neg stale
        rw [answered, Bool.eq_false_iff.mpr stale]
        simp

end Search

namespace Explorer

-- Nothing remains of answers that are not shown but what is noted of the last.
theorem receives_unshown (answers : List Completion) (explorer : Explorer)
    (unshown : ∀ answer ∈ answers, ¬ (explorer.controller.outcome answer).isRendered) :
    answers.foldl receive explorer =
      { explorer with
        controller := answers.foldl Controller.respond explorer.controller
        lastOutcome := (answers.getLast?.map explorer.controller.outcome).or explorer.lastOutcome } := by
  induction answers using List.reverseRecOn with
  | nil => rfl
  | append_singleton front answer ih =>
      have before := ih fun earlier member => unshown earlier (List.mem_append_left _ member)
      have outcome := receives_outcome front explorer answer
      have hidden := Controller.unrendered_rendering (front.foldl receive explorer).controller answer
        (outcome ▸ unshown answer (by simp))
      rw [List.foldl_append, List.foldl_cons, List.foldl_nil, receive, hidden, outcome, before]
      simp

theorem receives_last (answers : List Completion) (last : Completion) (explorer : Explorer) :
    ((answers ++ [last]).foldl receive explorer).lastOutcome = some (explorer.controller.outcome last) := by
  rw [← receives_outcome answers explorer last, List.foldl_append]
  rfl

theorem advance_unshown (explorer : Explorer) (now : Time) (noticed : explorer.view.rendered = [])
    (idle : explorer.Idle now)
    (unshown : ∀ answer ∈ explorer.inbox, ¬ (explorer.controller.outcome answer).isRendered) :
    explorer.advance now =
      ({ explorer with
          inbox := []
          controller := explorer.inbox.foldl Controller.respond explorer.controller
          closeNoted := explorer.closeNoted || !explorer.connected
          lastOutcome := (explorer.inbox.getLast?.map explorer.controller.outcome).or explorer.lastOutcome },
       !explorer.inbox.isEmpty) :=
  advance_answered explorer now _ _ (receives_unshown explorer.inbox explorer unshown) noticed idle

theorem failures_are_absorbed (ignoreStale : Bool) (settleDelay : Time) (actions : List Action)
    (events : List Service.Event) :
    let explorer := actions.foldl act (start ignoreStale settleDelay)
    let service := Service.run ignoreStale settleDelay events
    (∀ now, explorer.Idle now → (∀ completion ∈ explorer.inbox, completion.result.ShowsNothing) →
      explorer.advance now =
          ({ explorer with
              inbox := []
              controller.loading := explorer.controller.loading &&
                explorer.inbox.all fun completion => explorer.controller.isStale completion.id
              closeNoted := explorer.closeNoted || !explorer.connected
              lastOutcome := (explorer.inbox.getLast?.map explorer.controller.outcome).or explorer.lastOutcome },
           !explorer.inbox.isEmpty) ∧
        ∀ completion ∈ explorer.inbox,
          let outcome := explorer.controller.outcome completion
          (explorer.controller.isStale completion.id → outcome = .stale) ∧
            (¬ explorer.controller.isStale completion.id →
              (completion.result.succeeded = false → outcome = .failed completion.result.errorMessage) ∧
              (completion.result.succeeded = true →
                ∃ name, completion.result.kind = .unknown name ∧ outcome = .unknownKind name))) ∧
      ∀ (place : Nat) (backend : Backend) (request : Request) (problem : BackendError),
        service.busy[place]? = some request → backend request.query = .error problem →
        let finished := service.step (.finish place backend)
        let completion : Completion := ⟨request.id, .failure problem.message⟩
        completion.result.ShowsNothing ∧
          finished.explorer.inbox = service.explorer.inbox ++ [completion] ∧
          ∀ now own,
            let told := finished.step (.act (.advance now) own)
            told.received = finished.received ++ service.explorer.inbox ++ [completion] ∧
              told.explorer.lastOutcome =
                some (if finished.explorer.controller.isStale request.id then .stale
                  else .failed (some problem.message)) := by
  intro explorer service
  constructor
  · intro now idle nothing
    have noticed := (acts_structured ignoreStale settleDelay actions).noticed
    have absorbed := advance_unshown explorer now noticed idle fun completion member =>
      Controller.nothing_unrendered explorer.controller completion (nothing completion member)
    rw [Controller.responds] at absorbed
    refine ⟨absorbed, ?_⟩
    intro completion member outcome
    refine ⟨fun stale => if_pos stale, fun counts => ?_⟩
    have same : outcome = completion.result.outcome := if_neg counts
    rw [same]
    exact completion.result.nothing_outcome (nothing completion member)
  · intro place backend request problem found fails finished completion
    have sound : service.Sound := Service.run_sound ignoreStale settleDelay events
    have answer : request.complete backend = completion := by
      unfold Request.complete
      rw [fails]
    have inbox : finished.explorer.inbox = service.explorer.inbox ++ [completion] :=
      answer ▸ Service.finish_answers service sound place backend request found
    refine ⟨Result.failure_shows_nothing problem.message, inbox, ?_⟩
    intro now own told
    have received : told.received = finished.received ++ finished.explorer.inbox := rfl
    have last : told.explorer.lastOutcome = (finished.explorer.inbox.foldl receive finished.explorer).lastOutcome := rfl
    rw [received, last, inbox, receives_last, List.append_assoc]
    exact ⟨rfl, rfl⟩

-- A failed search comes back with an object all the same, and then an answer of a kind that nobody knows.
def troubled : List Action :=
  let object := Json.Value.object [("hash", .string "00aa")]
  [.load (some "1") 0, .dispatch, .deliver ⟨1, ⟨false, some "timeout", .block, object⟩⟩,
    .deliver ⟨1, .success (.unknown "TOKEN") object⟩]

-- The request of the search that is given at the launch is taken up by a worker.
def undertaken : List Service.Event := [.act (.load (some "1") 0) trivial, .take 0]

theorem troubled_is_absorbed :
    let explorer := troubled.foldl act (start true 200)
    let after := (explorer.advance 100).1
    let failed := (Service.run true 200 undertaken).step (.finish 0 fun _ => .error (.status 503))
    let told := failed.step (.act (.advance 100) trivial)
    explorer.Idle 100 ∧ explorer.inbox.length = 2 ∧ after.lastOutcome = some (.unknownKind "TOKEN") ∧
      after.view = explorer.view ∧ after.formatter = explorer.formatter ∧
      failed.explorer.inbox = [⟨1, .failure "Backend returned HTTP 503"⟩] ∧
      told.explorer.lastOutcome = some (.failed (some "Backend returned HTTP 503")) := by
  intro explorer after failed told
  obtain ⟨absorbed, reaches⟩ := failures_are_absorbed true 200 troubled undertaken
  have waiting : ∀ entry ∈ explorer.formatter.timers.entries, 100 < entry.deadline := by decide +kernel
  have nothing : ∀ completion ∈ explorer.inbox, completion.result.ShowsNothing := by
    intro completion member
    rcases List.mem_pair.mp member with rfl | rfl
    · exact .inl rfl
    · exact .inr ⟨"TOKEN", rfl⟩
  have same := congrArg Prod.fst (absorbed 100 waiting nothing).1
  obtain ⟨_, inbox, receives⟩ := reaches 0 (fun _ => .error (.status 503)) ⟨1, "1"⟩ (.status 503) rfl rfl
  refine ⟨waiting, rfl, ?_, ?_, ?_, inbox, (receives 100 trivial).2⟩
  · exact (congrArg Explorer.lastOutcome same).trans rfl
  · exact (congrArg Explorer.view same).trans rfl
  · exact (congrArg Explorer.formatter same).trans rfl

end Explorer
end ChainExplorer
