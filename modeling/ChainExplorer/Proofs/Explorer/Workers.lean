import ChainExplorer.Proofs.Explorer.Line
import Mathlib.Data.List.Perm.Basic

set_option autoImplicit false

namespace ChainExplorer

open Search (Backend BackendError Completion Controller Input Request Result)
open Explorer (Action)

-- What the user and the clock do. What goes to the workers and comes from them is their own affair, and they
-- keep the way for answers open.
def Explorer.Action.IsOwn : Action → Prop
  | .dispatch | .deliver _ | .close => False
  | _ => True

-- A search of the backend that has come to its end.
structure Call where
  request : Request
  answer : Except BackendError Result

def Call.completion (call : Call) : Completion := call.request.complete fun _ => call.answer

-- An explorer with its workers. What has passed so far is logged, oldest first.
structure Service where
  explorer : Explorer
  -- Requests that a worker is at.
  busy : List Request
  submitted : List Request
  calls : List Call
  received : List Completion

namespace Explorer

-- What an action takes off the channel.
def taken (explorer : Explorer) : Action → List Completion
  | .advance _ => explorer.inbox
  | _ => []

theorem own_outbox (explorer : Explorer) (action : Action) (own : action.IsOwn) :
    (explorer.act action).outbox = explorer.outbox ++ explorer.submitted action := by
  have grows : explorer.outbox <+: (explorer.act action).outbox := by
    have navigates (history : Option History) : explorer.outbox <+: (explorer.navigate history).outbox := by
      cases history with
      | none => exact List.prefix_rfl
      | some history => exact List.prefix_append _ _
    cases action with
    | load search now => exact List.prefix_append _ _
    | dispatch => exact absurd own id
    | advance now =>
        have kept : (explorer.act (.advance now)).outbox = explorer.outbox :=
          (receives_frame explorer.inbox explorer).1
        exact kept ▸ List.prefix_rfl
    | deliver completion => exact absurd own id
    | apply command time =>
        cases command with
        | key key =>
            unfold act apply
            dsimp only
            split
            · exact List.prefix_append _ _
            · exact List.prefix_rfl
        | back => exact navigates explorer.view.history.back
        | forward => exact navigates explorer.view.history.forward
        | _ => exact List.prefix_rfl
    | _ => exact List.prefix_rfl
  exact (List.prefix_iff_eq_append.mp grows).symm

theorem own_inbox (explorer : Explorer) (action : Action) (own : action.IsOwn) :
    explorer.taken action ++ (explorer.act action).inbox = explorer.inbox ∧
      (explorer.act action).connected = explorer.connected := by
  have navigates (history : Option History) :
      (explorer.navigate history).inbox = explorer.inbox ∧
        (explorer.navigate history).connected = explorer.connected := by
    cases history <;> exact ⟨rfl, rfl⟩
  cases action with
  | advance now => exact ⟨List.append_nil _, (receives_frame explorer.inbox explorer).2⟩
  | deliver completion => exact absurd own id
  | close => exact absurd own id
  | apply command time =>
      cases command with
      | key key =>
          unfold act apply
          dsimp only
          split <;> exact ⟨rfl, rfl⟩
      | back => exact navigates explorer.view.history.back
      | forward => exact navigates explorer.view.history.forward
      | _ => exact ⟨rfl, rfl⟩
  | _ => exact ⟨rfl, rfl⟩

-- Each request takes the next number.
theorem submitted_next (explorer : Explorer) (action : Action) :
    (explorer.act action).controller.nextRequest =
        explorer.controller.nextRequest + (explorer.submitted action).length ∧
      (explorer.submitted action).map Request.id =
        List.range' explorer.controller.nextRequest (explorer.submitted action).length := by
  by_cases still : ∀ now, action ≠ .advance now
  · obtain ⟨request, sends, submits⟩ := act_sends explorer action still
    rw [submits]
    cases request with
    | none => exact ⟨sends.2.1, rfl⟩
    | some request =>
        obtain ⟨_, number, next, _⟩ := sends
        exact ⟨next.trans (congrArg (· + 1) number), congrArg ([·]) number⟩
  · obtain ⟨now, same⟩ := not_forall_not.mp still
    subst same
    obtain ⟨loading, received⟩ := receives_loading_only explorer.inbox explorer
    have controller : (explorer.act (.advance now)).controller = { explorer.controller with loading } := received
    rw [submitted_entered, controller]
    exact ⟨rfl, rfl⟩

end Explorer

namespace Service

inductive Event where
  | act (action : Action) (own : action.IsOwn)
  -- A worker takes up one of the requests that wait.
  | take (place : Nat)
  -- A worker comes back with what the backend answers at that time.
  | finish (place : Nat) (backend : Backend)

-- What workers do that ask this backend.
def Event.IsWork (backend : Backend) : Event → Prop
  | .act _ _ => False
  | .take _ => True
  | .finish _ asked => asked = backend

def start (ignoreStale : Bool) (settleDelay : Time) : Service := ⟨.start ignoreStale settleDelay, [], [], [], []⟩

def act (service : Service) (action : Action) : Service :=
  { service with
    explorer := service.explorer.act action
    submitted := service.submitted ++ service.explorer.submitted action
    received := service.received ++ service.explorer.taken action }

def take (service : Service) (place : Nat) : Service :=
  match service.explorer.outbox[place]? with
  | none => service
  | some request =>
      { service with
        explorer.outbox := service.explorer.outbox.eraseIdx place
        busy := service.busy ++ [request] }

def finish (service : Service) (place : Nat) (backend : Backend) : Service :=
  match service.busy[place]? with
  | none => service
  | some request =>
      { service with
        explorer := (service.explorer.deliver (request.complete backend)).1
        busy := service.busy.eraseIdx place
        calls := service.calls ++ [⟨request, backend request.query⟩] }

def step (service : Service) : Event → Service
  | .act action _ => service.act action
  | .take place => service.take place
  | .finish place backend => service.finish place backend

def run (ignoreStale : Bool) (settleDelay : Time) (events : List Event) : Service :=
  events.foldl step (start ignoreStale settleDelay)

-- The requests that wait for a worker or have one at them.
def held (service : Service) : List Request := service.explorer.outbox ++ service.busy

structure Sound (service : Service) : Prop where
  connected : service.explorer.connected = true
  next : service.explorer.controller.nextRequest = service.submitted.length + 1
  numbered : service.submitted.map Request.id = List.range' 1 service.submitted.length
  kept : (service.held ++ service.calls.map Call.request).Perm service.submitted
  answered : service.received ++ service.explorer.inbox = service.calls.map Call.completion

theorem deliver_connected (explorer : Explorer) (completion : Completion) (connected : explorer.connected = true) :
    (explorer.deliver completion).1 = { explorer with inbox := explorer.inbox ++ [completion] } := by
  unfold Explorer.deliver
  rw [if_pos connected]

theorem deliver_outbox (explorer : Explorer) (completion : Completion) :
    (explorer.deliver completion).1.outbox = explorer.outbox := by
  unfold Explorer.deliver
  split <;> rfl

theorem start_sound (ignoreStale : Bool) (settleDelay : Time) : (start ignoreStale settleDelay).Sound :=
  ⟨rfl, rfl, rfl, .nil, rfl⟩

theorem act_sound (service : Service) (sound : service.Sound) (action : Action) (own : action.IsOwn) :
    (service.act action).Sound := by
  have outbox := Explorer.own_outbox service.explorer action own
  obtain ⟨inbox, connected⟩ := Explorer.own_inbox service.explorer action own
  obtain ⟨next, numbers⟩ := Explorer.submitted_next service.explorer action
  constructor
  · exact connected.trans sound.connected
  · dsimp only [act]
    rw [next, sound.next, List.length_append]
    lia
  · dsimp only [act]
    rw [List.map_append, sound.numbered, numbers, sound.next, List.length_append, Nat.add_comm _ 1]
    exact List.range'_append_1
  · dsimp only [act, held]
    rw [outbox]
    refine List.Perm.trans ?_ (sound.kept.append_right _)
    have swapped : (service.explorer.submitted action ++ (service.busy ++ service.calls.map Call.request)).Perm
        (service.busy ++ service.calls.map Call.request ++ service.explorer.submitted action) := List.perm_append_comm
    simpa only [held, List.append_assoc] using swapped.append_left service.explorer.outbox
  · dsimp only [act]
    rw [List.append_assoc, inbox]
    exact sound.answered

-- An element that is taken out and put in again elsewhere.
theorem erased_perm {α : Type} (list : List α) (place : Nat) (element : α) (found : list[place]? = some element) :
    (element :: list.eraseIdx place).Perm list := by
  obtain ⟨inside, rfl⟩ := List.getElem?_eq_some_iff.mp found
  exact List.getElem_cons_eraseIdx_perm inside

theorem take_sound (service : Service) (sound : service.Sound) (place : Nat) : (service.take place).Sound := by
  unfold take
  split
  · exact sound
  · rename_i request found
    refine ⟨sound.connected, sound.next, sound.numbered, ?_, sound.answered⟩
    refine List.Perm.trans (List.Perm.append_right _ ?_) sound.kept
    dsimp only [held]
    rw [← List.append_assoc]
    exact (List.perm_append_singleton _ _).trans ((erased_perm _ _ _ found).append_right _)

theorem finish_sound (service : Service) (sound : service.Sound) (place : Nat) (backend : Backend) :
    (service.finish place backend).Sound := by
  unfold finish
  split
  · exact sound
  · rename_i request found
    have delivered : (service.explorer.deliver (request.complete backend)).1 =
        { service.explorer with inbox := service.explorer.inbox ++ [request.complete backend] } := by
      unfold Explorer.deliver
      rw [if_pos sound.connected]
    rw [delivered]
    refine ⟨sound.connected, sound.next, sound.numbered, ?_, ?_⟩
    · refine List.Perm.trans ?_ sound.kept
      dsimp only [held]
      rw [List.map_append, ← List.append_assoc]
      refine (List.perm_append_singleton _ _).trans ?_
      have put := ((erased_perm _ _ _ found).append_left service.explorer.outbox).append_right
        (service.calls.map Call.request)
      refine List.Perm.trans ?_ put
      rw [← List.cons_append]
      exact List.perm_middle.symm.append_right _
    · rw [List.map_append, ← List.append_assoc, sound.answered]
      rfl

theorem step_sound (service : Service) (sound : service.Sound) (event : Event) : (service.step event).Sound := by
  cases event with
  | act action own => exact act_sound service sound action own
  | take place => exact take_sound service sound place
  | finish place backend => exact finish_sound service sound place backend

theorem run_sound (ignoreStale : Bool) (settleDelay : Time) (events : List Event) :
    (run ignoreStale settleDelay events).Sound :=
  List.foldlRecOn events _ (start_sound ignoreStale settleDelay) fun service sound event _ =>
    step_sound service sound event

-- Taking a request up and finishing it are two pieces of work.
def load (service : Service) : Nat := 2 * service.explorer.outbox.length + service.busy.length

theorem take_first (service : Service) (request : Request) (rest : List Request)
    (waiting : service.explorer.outbox = request :: rest) :
    service.take 0 =
      { service with
        explorer.outbox := rest
        busy := service.busy ++ [request] } := by
  unfold take
  rw [waiting]
  rfl

theorem finish_first (service : Service) (request : Request) (rest : List Request) (backend : Backend)
    (working : service.busy = request :: rest) :
    service.finish 0 backend =
      { service with
        explorer := (service.explorer.deliver (request.complete backend)).1
        busy := rest
        calls := service.calls ++ [⟨request, backend request.query⟩] } := by
  unfold finish
  rw [working]
  rfl

-- By induction on the work left, whatever the backend answers.
theorem work_finishes (backend : Backend) (left : Nat) (service : Service) (bound : service.load = left) :
    ∃ work : List Event, (∀ event ∈ work, event.IsWork backend) ∧
      (work.foldl step service).held = [] ∧ (work.foldl step service).submitted = service.submitted := by
  induction left using Nat.strongRecOn generalizing service with
  | ind left ih =>
      have continues (event : Event) (isWork : event.IsWork backend) (less : (service.step event).load < left)
          (same : (service.step event).submitted = service.submitted) :
          ∃ work : List Event, (∀ event ∈ work, event.IsWork backend) ∧
            (work.foldl step service).held = [] ∧ (work.foldl step service).submitted = service.submitted := by
        obtain ⟨work, all, done, kept⟩ := ih _ less (service.step event) rfl
        exact ⟨event :: work, List.forall_mem_cons.mpr ⟨isWork, all⟩, done, kept.trans same⟩
      cases waiting : service.explorer.outbox with
      | cons request rest =>
          have taken := take_first service request rest waiting
          refine continues (.take 0) trivial ?_ (by rw [step, taken])
          rw [← bound, step, taken]
          simp [load, waiting]
          lia
      | nil =>
          cases working : service.busy with
          | cons request rest =>
              have finished := finish_first service request rest backend working
              refine continues (.finish 0 backend) rfl ?_ (by rw [step, finished])
              rw [← bound, step, finished]
              simp [load, deliver_outbox, waiting, working]
          | nil =>
              have idle : service.held = [] := by simp [held, waiting, working]
              exact ⟨[], List.forall_mem_nil _, idle, rfl⟩

-- The places of a request with respect to its number: a worker's, the channel, or one that has been received.
def places (service : Service) (id : Nat) : Nat :=
  (service.held.map Request.id).count id + (service.explorer.inbox.map Completion.id).count id +
    (service.received.map Completion.id).count id

theorem answered_ids (service : Service) (sound : service.Sound) :
    (service.received ++ service.explorer.inbox).map Completion.id =
      (service.calls.map Call.request).map Request.id := by
  have same (call : Call) : call.completion.id = call.request.id := by
    unfold Call.completion Request.complete
    dsimp only
    split <;> rfl
  rw [sound.answered, List.map_map, List.map_map]
  exact List.map_congr_left fun call _ => same call

-- The numbers of all requests, wherever they are, are the numbers that were given out.
theorem ids_kept (service : Service) (sound : service.Sound) :
    (service.held.map Request.id ++ (service.received ++ service.explorer.inbox).map Completion.id).Perm
      (List.range' 1 service.submitted.length) := by
  rw [answered_ids service sound, ← List.map_append, ← sound.numbered]
  exact sound.kept.map Request.id

theorem places_one (service : Service) (sound : service.Sound) (request : Request)
    (among : request ∈ service.submitted) : service.places request.id = 1 := by
  have given : request.id ∈ List.range' 1 service.submitted.length :=
    sound.numbered ▸ List.mem_map_of_mem among
  have once := (ids_kept service sound).count_eq request.id
  rw [List.count_eq_one_of_mem List.nodup_range' given, List.count_append, List.map_append, List.count_append]
    at once
  unfold places
  lia

theorem act_submits (service : Service) (sound : service.Sound) (action : Action) :
    (service.act action).submitted = service.submitted ++
      match service.explorer.entered? action with
      | none => []
      | some line => if line.value = "" then [] else [⟨service.submitted.length + 1, line.value⟩] := by
  have submits := Explorer.submitted_entered service.explorer action
  rw [sound.next] at submits
  exact congrArg (service.submitted ++ ·) submits

theorem work_submits_nothing (service : Service) (backend : Backend) (event : Event) (work : event.IsWork backend) :
    (service.step event).submitted = service.submitted := by
  cases event with
  | act action own => exact absurd work id
  | take place =>
      unfold step take
      dsimp only
      split <;> rfl
  | finish place backend =>
      unfold step finish
      dsimp only
      split <;> rfl

theorem complete_result (request : Request) (backend : Backend) :
    (request.complete backend).id = request.id ∧
      (∀ result, backend request.query = .ok result → (request.complete backend).result = result) ∧
      ∀ problem, backend request.query = .error problem →
        (request.complete backend).result = .failure problem.message := by
  unfold Request.complete
  cases answer : backend request.query with
  | ok result => exact ⟨rfl, fun _ same => Except.ok.inj same, nofun⟩
  | error problem => exact ⟨rfl, nofun, fun _ same => congrArg (Result.failure ·.message) (Except.error.inj same)⟩

theorem finish_answers (service : Service) (sound : service.Sound) (place : Nat) (backend : Backend)
    (request : Request) (found : service.busy[place]? = some request) :
    (service.finish place backend).explorer.inbox = service.explorer.inbox ++ [request.complete backend] := by
  unfold finish
  rw [found]
  dsimp only
  rw [deliver_connected service.explorer _ sound.connected]

theorem advance_receives (service : Service) (now : Time) :
    let after := service.act (.advance now)
    after.received = service.received ++ service.explorer.inbox ∧ after.explorer.inbox = [] ∧
      after.explorer.controller = service.explorer.inbox.foldl Controller.respond service.explorer.controller :=
  ⟨rfl, rfl, Explorer.receives_controller service.explorer.inbox service.explorer⟩

-- Whatever the user does and in whatever order the workers take up and finish what they find, each submission
-- becomes one request with the next number and the text of the line, and each request is in one place at any
-- time: with the workers, in the channel, or received.
theorem searches_are_answered_once (ignoreStale : Bool) (settleDelay : Time) (events : List Event) :
    let service := run ignoreStale settleDelay events
    service.submitted.map Request.id = List.range' 1 service.submitted.length ∧
      (∀ action own, (service.step (.act action own)).submitted = service.submitted ++
        match service.explorer.entered? action with
        | none => []
        | some line => if line.value = "" then [] else [⟨service.submitted.length + 1, line.value⟩]) ∧
      (∀ action line, service.explorer.entered? action = some line → line.display ≠ line.value →
        ∀ request ∈ service.explorer.submitted action, request.query ≠ line.display) ∧
      (∀ backend (event : Event), event.IsWork backend →
        (service.step event).submitted = service.submitted) ∧
      (∀ controller : Controller, controller.input.value = "" → controller.submit = (controller, none)) ∧
      (∀ time, service.explorer.controller.focused = true → service.explorer.controller.input.value = "" →
        service.explorer.act (.apply (.key .enter) time) =
          { service.explorer with controller.input.transform := .asTyped }) ∧
      (∀ place backend request, service.busy[place]? = some request →
        (service.step (.finish place backend)).explorer.inbox =
          service.explorer.inbox ++ [request.complete backend]) ∧
      (∀ (request : Request) (backend : Backend), (request.complete backend).id = request.id ∧
        (∀ result, backend request.query = .ok result → (request.complete backend).result = result) ∧
        ∀ problem, backend request.query = .error problem →
          (request.complete backend).result = .failure problem.message) ∧
      (∀ now own, let after := service.step (.act (.advance now) own)
        after.received = service.received ++ service.explorer.inbox ∧ after.explorer.inbox = [] ∧
          after.explorer.controller =
            service.explorer.inbox.foldl Controller.respond service.explorer.controller) ∧
      (service.held ++ service.calls.map Call.request).Perm service.submitted ∧
      service.received ++ service.explorer.inbox = service.calls.map Call.completion ∧
      (∀ request ∈ service.submitted, service.places request.id = 1) ∧
      (service.held = [] → ((service.received ++ service.explorer.inbox).map Completion.id).Perm
        (List.range' 1 service.submitted.length)) ∧
      ∀ backend : Backend, ∃ work : List Event, (∀ event ∈ work, event.IsWork backend) ∧
        (work.foldl step service).held = [] ∧ (work.foldl step service).submitted = service.submitted := by
  intro service
  have sound : service.Sound := run_sound ignoreStale settleDelay events
  have done (idle : service.held = []) :
      ((service.received ++ service.explorer.inbox).map Completion.id).Perm
        (List.range' 1 service.submitted.length) := by
    have kept := ids_kept service sound
    rwa [idle, List.map_nil, List.nil_append] at kept
  exact ⟨sound.numbered, fun action _ => act_submits service sound action,
    Explorer.submitted_undisplayed service.explorer, work_submits_nothing service, Controller.submit_empty,
    Explorer.enter_empty service.explorer, finish_answers service sound, complete_result,
    fun now _ => advance_receives service now, sound.kept, sound.answered, places_one service sound, done,
    fun backend => work_finishes backend _ service rfl⟩

end Service
end ChainExplorer
