import ChainExplorer.Proofs.Explorer.Loading

set_option autoImplicit false

namespace ChainExplorer

open Search (Completion Controller Input Key Request)

namespace Search.Controller

theorem submit_empty (controller : Controller) (empty : controller.input.value = "") :
    controller.submit = (controller, none) := by
  have nothing : controller.request? = none := if_pos (String.isEmpty_iff.mpr empty)
  unfold submit
  rw [nothing]

theorem submit_request (controller : Controller) :
    controller.submit.2 =
      if controller.input.value = "" then none else some ⟨controller.nextRequest, controller.input.value⟩ := by
  by_cases empty : controller.input.value = ""
  · rw [if_pos empty, submit_empty controller empty]
  · have request : controller.request? = some ⟨controller.nextRequest, controller.input.value⟩ :=
      if_neg (mt String.isEmpty_iff.mp empty)
    rw [if_neg empty, submit, request]

-- A submission drops the selection and leaves the text and its form as they are.
theorem submit_line (controller : Controller) :
    controller.submit.1.input.value = controller.input.value ∧
      controller.submit.1.input.transform = controller.input.transform := by
  unfold submit
  cases controller.request? <;> exact ⟨rfl, rfl⟩

theorem type_request (controller : Controller) (key : Key) :
    (controller.type key).2 = if key = .enter then controller.submit.2 else none := by
  have pressed : (controller.type key).2 = (controller.press key).2 := by
    unfold type
    split <;> rename_i transition <;> rw [transition]
  rw [pressed]
  cases key <;> rfl

-- Whatever the key did to the text, its release decides on the form.
theorem type_transform (controller : Controller) (key : Key) :
    (controller.type key).1.input.transform =
      if (controller.type key).1.input.length = Hash.fullLength then .upperCase else .asTyped := by
  unfold type
  split <;> rfl

-- Restoring a visit is a search for what it showed; the search for nothing clears the line.
theorem restore_search (controller : Controller) (results : Results) (visit : Visit) :
    ((controller.restore results visit).1, (controller.restore results visit).2.2) =
      controller.search (visit.getD "") := by
  have landing : ({ controller with input := controller.input.clear }, none) = controller.search "" :=
    (submit_empty { controller with input := controller.input.setValue "" } rfl).symm
  cases visit with
  | none => exact landing
  | some text =>
      by_cases empty : text = ""
      · subst empty
        exact landing
      · have filled : (some text).filter (!·.isEmpty) = some text := by simp [Option.filter, empty]
        unfold restore
        rw [filled]
        rfl

-- An answer touches nothing but the loading indicator.
theorem respond_loading_only (controller : Controller) (completion : Completion) :
    ∃ loading, controller.respond completion = { controller with loading } := by
  unfold respond
  split
  · exact ⟨controller.loading, rfl⟩
  · exact ⟨false, rfl⟩

end Search.Controller

namespace Explorer

theorem receives_controller (answers : List Completion) (explorer : Explorer) :
    (answers.foldl receive explorer).controller = answers.foldl Controller.respond explorer.controller := by
  induction answers generalizing explorer with
  | nil => rfl
  | cons completion rest ih => exact ih (explorer.receive completion)

theorem receives_loading_only (answers : List Completion) (explorer : Explorer) :
    ∃ loading, (answers.foldl receive explorer).controller = { explorer.controller with loading } := by
  refine List.foldlRecOn
    (motive := fun after : Explorer => ∃ loading, after.controller = { explorer.controller with loading }) answers _
    ⟨explorer.controller.loading, rfl⟩ ?_
  rintro after ⟨_, before⟩ completion _
  obtain ⟨loading, responded⟩ := Controller.respond_loading_only after.controller completion
  exact ⟨loading, responded.trans (by rw [before])⟩

theorem receives_frame (answers : List Completion) (explorer : Explorer) :
    (answers.foldl receive explorer).outbox = explorer.outbox ∧
      (answers.foldl receive explorer).connected = explorer.connected :=
  List.foldlRecOn (motive := fun after : Explorer => after.outbox = explorer.outbox ∧
    after.connected = explorer.connected) answers _ ⟨rfl, rfl⟩ fun _ before _ _ => before

-- The key that an action types.
def typed? (explorer : Explorer) : Action → Option Key
  | .apply (.key key) _ => if explorer.controller.focused then some key else none
  | _ => none

-- The text that an action puts in the place of the line.
def replacement? (explorer : Explorer) : Action → Option String
  | .load search _ => search
  | .apply .back _ => explorer.view.history.back.map fun history => history.current.getD ""
  | .apply .forward _ => explorer.view.history.forward.map fun history => history.current.getD ""
  | _ => none

-- The line as an action submits it, if the action submits any.
def entered? (explorer : Explorer) (action : Action) : Option Input :=
  match explorer.typed? action with
  | some .enter => some explorer.controller.input
  | some _ => none
  | none => (explorer.replacement? action).map explorer.controller.input.setValue

-- What an action may do with the line: type a key into it, put another text in its place, or leave it alone.
inductive Rewrites (explorer : Explorer) (action : Action) : Prop where
  | types (key : Key) (typed : explorer.typed? action = some key)
      (controller : (explorer.act action).controller = (explorer.controller.type key).1)
      (sends : explorer.submitted action = (explorer.controller.type key).2.toList)
  | replaces (text : String) (untyped : explorer.typed? action = none)
      (replaced : explorer.replacement? action = some text)
      (controller : (explorer.act action).controller = (explorer.controller.search text).1)
      (sends : explorer.submitted action = (explorer.controller.search text).2.toList)
  | leaves (untyped : explorer.typed? action = none) (unreplaced : explorer.replacement? action = none)
      (value : (explorer.act action).controller.input.value = explorer.controller.input.value)
      (transform : (explorer.act action).controller.input.transform = explorer.controller.input.transform)
      (sends : explorer.submitted action = [])

theorem navigate_search (explorer : Explorer) (history : History) :
    (explorer.navigate (some history)).controller = (explorer.controller.search (history.current.getD "")).1 ∧
      (explorer.navigate (some history)).outbox.drop explorer.outbox.length =
        (explorer.controller.search (history.current.getD "")).2.toList := by
  have restored := Controller.restore_search explorer.controller explorer.view.results history.current
  rw [← restored]
  exact ⟨rfl, List.drop_left⟩

theorem navigate_rewrites (explorer : Explorer) (action : Action) (history : Option History)
    (untyped : explorer.typed? action = none) (after : explorer.act action = explorer.navigate history)
    (replaced : explorer.replacement? action = history.map fun history => history.current.getD "") :
    explorer.Rewrites action := by
  cases history with
  | none =>
      have same : explorer.act action = explorer := after
      exact .leaves untyped replaced (by rw [same]) (by rw [same]) (by rw [submitted, same, List.drop_length])
  | some history =>
      obtain ⟨controller, sends⟩ := navigate_search explorer history
      exact .replaces _ untyped replaced (after ▸ controller) (by rw [submitted, after, sends])

theorem act_rewrites (explorer : Explorer) (action : Action) : explorer.Rewrites action := by
  cases action with
  | load search now =>
      cases search with
      | none => exact .leaves rfl rfl rfl rfl List.drop_left
      | some text => exact .replaces text rfl rfl rfl List.drop_left
  | advance now =>
      obtain ⟨loading, received⟩ := receives_loading_only explorer.inbox explorer
      have controller : (explorer.act (.advance now)).controller = { explorer.controller with loading } := received
      have outbox : (explorer.act (.advance now)).outbox = explorer.outbox :=
        (receives_frame explorer.inbox explorer).1
      exact .leaves rfl rfl (by rw [controller]) (by rw [controller]) (by rw [submitted, outbox, List.drop_length])
  | dispatch => exact .leaves rfl rfl rfl rfl List.drop_nil
  | deliver completion =>
      have same : (explorer.act (.deliver completion)).controller = explorer.controller ∧
          (explorer.act (.deliver completion)).outbox = explorer.outbox := by
        unfold act deliver
        dsimp only
        split <;> exact ⟨rfl, rfl⟩
      exact .leaves rfl rfl (by rw [same.1]) (by rw [same.1]) (by rw [submitted, same.2, List.drop_length])
  | apply command time =>
      cases command with
      | key key =>
          cases focused : explorer.controller.focused with
          | true =>
              have typing : explorer.act (.apply (.key key) time) =
                  explorer.withController (explorer.controller.type key) := by simp [act, apply, focused]
              refine .types key (by simp [typed?, focused]) (typing ▸ rfl) ?_
              rw [submitted, typing]
              exact List.drop_left
          | false =>
              have same : explorer.act (.apply (.key key) time) = explorer := by simp [act, apply, focused]
              exact .leaves (by simp [typed?, focused]) rfl (by rw [same]) (by rw [same])
                (by rw [submitted, same, List.drop_length])
      | back => exact navigate_rewrites explorer _ explorer.view.history.back rfl rfl rfl
      | forward => exact navigate_rewrites explorer _ explorer.view.history.forward rfl rfl rfl
      | _ => exact .leaves rfl rfl rfl rfl List.drop_length
  | _ => exact .leaves rfl rfl rfl rfl List.drop_length

-- Each request has the next number and the text of the line, whatever its form on display.
theorem submitted_entered (explorer : Explorer) (action : Action) :
    explorer.submitted action =
      match explorer.entered? action with
      | none => []
      | some line => if line.value = "" then [] else [⟨explorer.controller.nextRequest, line.value⟩] := by
  unfold entered?
  cases act_rewrites explorer action with
  | types key typed _ sends =>
      rw [sends, typed, Controller.type_request]
      cases key with
      | enter =>
          rw [if_pos rfl, Controller.submit_request]
          dsimp only
          split <;> rfl
      | _ => rfl
  | replaces text untyped replaced _ sends =>
      rw [sends, untyped, replaced, Controller.search, Controller.submit_request]
      change Option.toList (if text = "" then none else some _) = if text = "" then [] else [_]
      split <;> rfl
  | leaves untyped unreplaced _ _ sends => rw [sends, untyped, unreplaced, Option.map_none]

theorem submitted_undisplayed (explorer : Explorer) (action : Action) (line : Input)
    (entered : explorer.entered? action = some line) (transformed : line.display ≠ line.value) (request : Request)
    (sent : request ∈ explorer.submitted action) : request.query ≠ line.display := by
  rw [submitted_entered, entered] at sent
  dsimp only at sent
  split at sent
  · cases sent
  · rw [List.mem_singleton.mp sent]
    exact transformed.symm

-- Enter submits nothing from an empty line; what changes is the form, as it does after every key.
theorem enter_empty (explorer : Explorer) (time : Time) (focused : explorer.controller.focused = true)
    (empty : explorer.controller.input.value = "") :
    explorer.act (.apply (.key .enter) time) = { explorer with controller.input.transform := .asTyped } := by
  have short : explorer.controller.input.length ≠ Hash.fullLength := by
    rw [Input.length, empty]
    decide
  have typed : explorer.controller.type .enter =
      ({ explorer.controller with input.transform := .asTyped }, none) := by
    unfold Controller.type Controller.press
    rw [Controller.submit_empty explorer.controller empty]
    change (Controller.release explorer.controller, none) = _
    unfold Controller.release
    rw [if_neg short]
    rfl
  unfold act apply
  dsimp only
  rw [if_pos focused, typed]
  unfold withController
  rw [Option.toList_none, List.append_nil]

end Explorer
end ChainExplorer
