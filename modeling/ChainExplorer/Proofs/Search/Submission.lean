import ChainExplorer.Search.Controller

set_option autoImplicit false

namespace ChainExplorer.Search.Controller

-- What a handler may do to the numbers, the loading indicator and the filter.
def Sends (before : Controller) : Controller × Option Request → Prop
  | (after, none) =>
      after.ignoreStale = before.ignoreStale ∧ after.nextRequest = before.nextRequest ∧
        after.latest = before.latest ∧ after.loading = before.loading
  | (after, some request) =>
      after.ignoreStale = before.ignoreStale ∧ request.id = before.nextRequest ∧
        after.nextRequest = request.id + 1 ∧ after.latest = some request.id ∧ after.loading = true

theorem sends_input (before after : Controller) (request : Option Request) (input : Input)
    (sends : Sends before (after, request)) : Sends before ({ after with input }, request) := by
  cases request with
  | none => exact sends
  | some request => exact sends

theorem submit_sends (controller : Controller) : Sends controller controller.submit := by
  unfold submit request?
  by_cases empty : controller.input.isEmpty
  · rw [if_pos empty]
    exact ⟨rfl, rfl, rfl, rfl⟩
  · rw [if_neg empty]
    exact ⟨rfl, rfl, rfl, rfl, rfl⟩

theorem press_sends (controller : Controller) (key : Key) : Sends controller (controller.press key) := by
  cases key with
  | enter => exact submit_sends controller
  | _ => exact ⟨rfl, rfl, rfl, rfl⟩

theorem type_sends (controller : Controller) (key : Key) : Sends controller (controller.type key) := by
  have pressed := press_sends controller key
  unfold type
  split
  · rename_i after request transition
    rw [transition] at pressed
    exact sends_input controller after (some request) _ pressed
  · rename_i after transition
    rw [transition] at pressed
    exact sends_input controller after none _ pressed

theorem search_sends (controller : Controller) (text : String) : Sends controller (controller.search text) :=
  submit_sends { controller with input := controller.input.setValue text }

theorem load_sends (controller : Controller) (search : Option String) :
    Sends controller (controller.load search) := by
  cases search with
  | none => exact ⟨rfl, rfl, rfl, rfl⟩
  | some text => exact search_sends controller text

theorem restore_sends (controller : Controller) (results : Results) (visit : Visit) :
    Sends controller ((controller.restore results visit).1, (controller.restore results visit).2.2) := by
  unfold restore
  cases visit.filter (!·.isEmpty) with
  | none => exact ⟨rfl, rfl, rfl, rfl⟩
  | some text => exact search_sends controller text

theorem restore_results (controller : Controller) (results : Results) (visit : Visit) :
    (controller.restore results visit).2.1 = results ∨ (controller.restore results visit).2.1 = results.clear := by
  unfold restore
  cases visit.filter (!·.isEmpty) with
  | none => exact .inr rfl
  | some text => exact .inl rfl

theorem restore_landing (controller : Controller) (results : Results) :
    controller.restore results none = ({ controller with input := controller.input.clear }, results.clear, none) := rfl

theorem restore_key (controller : Controller) (results : Results) (key : String) (present : key ≠ "") :
    (controller.restore results (some key)).2.2 = some ⟨controller.nextRequest, key⟩ := by
  have filled : (some key).filter (!·.isEmpty) = some key := by simp [Option.filter, present]
  have typed : ¬ (controller.input.setValue key).isEmpty := by simpa [Input.isEmpty, Input.setValue] using present
  unfold restore
  rw [filled]
  dsimp only [search, submit, request?]
  rw [if_neg typed]
  rfl

theorem result_never_stale (result : Result) : result.outcome ≠ .stale := by
  unfold Result.outcome
  split
  · split <;> simp
  · simp

theorem outcome_stale (controller : Controller) (completion : Completion) :
    controller.outcome completion = .stale ↔ controller.isStale completion.id := by
  unfold outcome
  by_cases stale : controller.isStale completion.id
  · simp [stale]
  · simp [stale, result_never_stale]

theorem stale_when_filtering (controller : Controller) (filtering : controller.ignoreStale = true) (number : Nat) :
    controller.isStale number ↔ controller.latest ≠ some number := by
  simp [isStale, filtering]

theorem respond_frame (controller : Controller) (completion : Completion) :
    (controller.respond completion).ignoreStale = controller.ignoreStale ∧
      (controller.respond completion).nextRequest = controller.nextRequest ∧
      (controller.respond completion).latest = controller.latest := by
  unfold respond
  split <;> exact ⟨rfl, rfl, rfl⟩

theorem respond_stale (controller : Controller) (completion : Completion)
    (stale : controller.isStale completion.id) : controller.respond completion = controller := by
  unfold respond
  rw [if_pos stale]

theorem respond_loading (controller : Controller) (completion : Completion)
    (counts : ¬ controller.isStale completion.id) : (controller.respond completion).loading = false := by
  unfold respond
  rw [if_neg counts]

end ChainExplorer.Search.Controller
