import ChainExplorer.Proofs.Explorer.Reachable
import Mathlib.Data.List.Induction

set_option autoImplicit false

namespace ChainExplorer

open Search (Completion Controller Request)

-- What passes between an explorer and its backend.
inductive Exchange where
  | sent (number : Nat)
  | answered (number : Nat)
deriving DecidableEq

namespace Exchange

-- A request that has been sent and has not been answered.
def Open (log : List Exchange) (number : Nat) : Prop := sent number ∈ log ∧ answered number ∉ log

def Always (allowed : List Exchange → Exchange → Prop) (log : List Exchange) : Prop :=
  ∀ before exchange after, log = before ++ exchange :: after → allowed before exchange

-- Each answer belongs to a request that is open, so no request is answered twice.
def Legal : List Exchange → Prop := Always fun before exchange => ∀ number, exchange = answered number → Open before number

-- No search overlaps another.
def Serial : List Exchange → Prop :=
  Always fun before exchange => ∀ number, exchange = sent number → ∀ other, ¬ Open before other

theorem always_nil (allowed : List Exchange → Exchange → Prop) : Always allowed [] := by
  intro before exchange after impossible
  simp at impossible

theorem always_concat (allowed : List Exchange → Exchange → Prop) (log : List Exchange) (last : Exchange) :
    Always allowed (log ++ [last]) ↔ Always allowed log ∧ allowed log last := by
  constructor
  · intro always
    refine ⟨?_, always log last [] rfl⟩
    rintro before exchange after rfl
    exact always before exchange (after ++ [last]) (by simp)
  · rintro ⟨always, allowedLast⟩ before exchange after same
    rcases last_or_before log before after last exchange same with ⟨_, rfl, rfl⟩ | ⟨front, _, earlier⟩
    · exact allowedLast
    · exact always before exchange front earlier

theorem open_concat (log : List Exchange) (last : Exchange) (number : Nat) :
    Open (log ++ [last]) number ↔
      (Open log number ∨ (last = sent number ∧ answered number ∉ log)) ∧ last ≠ answered number := by
  simp only [Open, List.mem_append, List.mem_singleton, not_or, or_and_right, and_assoc, eq_comm, ne_eq]

theorem serial_one_open (log : List Exchange) (serial : Serial log) (a b : Nat) (first : Open log a)
    (second : Open log b) : a = b := by
  induction log using List.reverseRecOn with
  | nil => exact absurd first.1 List.not_mem_nil
  | append_singleton log last ih =>
      obtain ⟨before, alone⟩ := (always_concat _ log last).mp serial
      obtain ⟨firstOpen, _⟩ := (open_concat log last a).mp first
      obtain ⟨secondOpen, _⟩ := (open_concat log last b).mp second
      cases last with
      | sent number =>
          have none := alone number rfl
          have same := (firstOpen.resolve_left (none a)).1
          rw [(secondOpen.resolve_left (none b)).1] at same
          cases same
          rfl
      | answered number => exact ih before (firstOpen.resolve_right (by simp)) (secondOpen.resolve_right (by simp))

-- If the last exchange is an answer, what it closes was the only request that was open.
theorem serial_open_last (log : List Exchange) (legal : Legal log) (serial : Serial log) (number : Nat)
    (waits : Open log number) : log.getLast? = some (sent number) := by
  rcases List.eq_nil_or_concat log with rfl | ⟨front, last, rfl⟩
  · exact absurd waits.1 List.not_mem_nil
  · rw [List.concat_eq_append] at *
    obtain ⟨_, answers⟩ := (always_concat _ front last).mp legal
    obtain ⟨before, alone⟩ := (always_concat _ front last).mp serial
    obtain ⟨either, unanswered⟩ := (open_concat front last number).mp waits
    rw [List.getLast?_concat]
    cases last with
    | sent other => exact congrArg some (either.resolve_left (alone other rfl number)).1
    | answered other =>
        have waiting := either.resolve_right (by simp)
        have same := serial_one_open front before number other waiting (answers other rfl)
        exact absurd (congrArg answered same.symm) unanswered

end Exchange

namespace Explorer

open Exchange (sent answered Open Legal Serial)

-- What an action adds to the outbox.
def submitted (explorer : Explorer) (action : Action) : List Request :=
  (explorer.act action).outbox.drop explorer.outbox.length

-- Requests as they are submitted, and answers as they are received.
def exchanged (explorer : Explorer) : Action → List Exchange
  | .advance _ => explorer.inbox.map fun completion => answered completion.id
  | action => (explorer.submitted action).map fun request => sent request.id

def exchanges (explorer : Explorer) (actions : List Action) : List Exchange := along exchanged explorer actions

theorem navigate_sends (explorer : Explorer) (history : Option History) :
    ∃ request, explorer.controller.Sends ((explorer.navigate history).controller, request) ∧
      (explorer.navigate history).outbox.drop explorer.outbox.length = request.toList := by
  cases history with
  | none => exact ⟨none, ⟨rfl, rfl, rfl, rfl⟩, List.drop_length⟩
  | some history =>
      exact ⟨_, Controller.restore_sends explorer.controller explorer.view.results history.current,
        List.drop_left⟩

theorem act_sends (explorer : Explorer) (action : Action) (still : ∀ now, action ≠ .advance now) :
    ∃ request, explorer.controller.Sends ((explorer.act action).controller, request) ∧
      explorer.submitted action = request.toList := by
  have idle : explorer.controller.Sends (explorer.controller, none) := ⟨rfl, rfl, rfl, rfl⟩
  cases action with
  | load search now => exact ⟨_, Controller.load_sends explorer.controller search, List.drop_left⟩
  | advance now => exact absurd rfl (still now)
  | dispatch => exact ⟨none, idle, List.drop_nil⟩
  | deliver completion =>
      refine ⟨none, ?_, ?_⟩
      · unfold act deliver
        dsimp only
        split <;> exact idle
      · unfold submitted act deliver
        dsimp only
        split <;> exact List.drop_length
  | apply command time =>
      cases command with
      | key key =>
          unfold submitted act apply
          dsimp only
          split
          · exact ⟨_, Controller.type_sends explorer.controller key, List.drop_left⟩
          · exact ⟨none, idle, List.drop_length⟩
      | back => exact navigate_sends explorer _
      | forward => exact navigate_sends explorer _
      | _ => exact ⟨none, ⟨rfl, rfl, rfl, rfl⟩, List.drop_length⟩
  | _ => exact ⟨none, idle, List.drop_length⟩

-- What the indicator shows of a log.
structure Indicates (controller : Controller) (log : List Exchange) : Prop where
  unfiltered : controller.ignoreStale = false
  numbered : ∀ number, sent number ∈ log → number < controller.nextRequest
  latest : ∀ front number, log = front ++ [sent number] → sent number ∉ front
  loading : controller.loading = true ↔ ∃ number, log.getLast? = some (sent number)

theorem start_indicates : Indicates (.withIgnoreStale false) [] := by
  refine ⟨rfl, fun _ member => (nomatch member), ?_, ?_⟩
  · intro front number impossible
    simp at impossible
  · simp [Controller.withIgnoreStale]

theorem sends_indicates (before after : Controller) (request : Option Request) (log : List Exchange)
    (indicates : Indicates before log) (sends : before.Sends (after, request)) :
    Indicates after (log ++ request.toList.map fun request => sent request.id) := by
  cases request with
  | none =>
      obtain ⟨filter, next, _, loading⟩ := sends
      rw [Option.toList_none, List.map_nil, List.append_nil]
      refine ⟨filter.trans indicates.unfiltered, ?_, indicates.latest, loading ▸ indicates.loading⟩
      exact fun number member => next ▸ indicates.numbered number member
  | some request =>
      obtain ⟨filter, number, next, _, loading⟩ := sends
      rw [Option.toList_some, List.map_singleton]
      refine ⟨filter.trans indicates.unfiltered, ?_, ?_, ?_⟩
      · intro other member
        rw [next, number]
        rcases List.mem_append.mp member with earlier | last
        · exact Nat.lt_succ_of_lt (indicates.numbered other earlier)
        · cases List.mem_singleton.mp last
          rw [number]
          exact Nat.lt_succ_self _
      · intro front other same member
        obtain ⟨rfl, tail⟩ := List.append_inj' same rfl
        cases tail
        exact Nat.ne_of_lt (indicates.numbered _ member) number
      · rw [List.getLast?_concat]
        exact iff_of_true loading ⟨request.id, rfl⟩

theorem respond_indicates (controller : Controller) (completion : Completion) (log : List Exchange)
    (indicates : Indicates controller log) :
    Indicates (controller.respond completion) (log ++ [answered completion.id]) := by
  obtain ⟨filter, next, _⟩ := Controller.respond_frame controller completion
  have counts : ¬ controller.isStale completion.id := by simp [Controller.isStale, indicates.unfiltered]
  refine ⟨filter.trans indicates.unfiltered, ?_, ?_, ?_⟩
  · intro number member
    rw [next]
    refine indicates.numbered number ((List.mem_append.mp member).resolve_right ?_)
    simp
  · intro front number same
    cases (List.append_inj' same rfl).2
  · rw [Controller.respond_loading controller completion counts, List.getLast?_concat]
    simp

theorem receives_indicates (answers : List Completion) (explorer : Explorer) (log : List Exchange)
    (indicates : Indicates explorer.controller log) :
    Indicates (answers.foldl receive explorer).controller (log ++ answers.map fun completion => answered completion.id) := by
  induction answers generalizing explorer log with
  | nil =>
      rw [List.map_nil, List.append_nil]
      exact indicates
  | cons completion rest ih =>
      rw [List.map_cons, List.append_cons]
      exact ih (explorer.receive completion) _ (respond_indicates explorer.controller completion log indicates)

theorem act_indicates (explorer : Explorer) (action : Action) (log : List Exchange)
    (indicates : Indicates explorer.controller log) :
    Indicates (explorer.act action).controller (log ++ explorer.exchanged action) := by
  by_cases still : ∀ now, action ≠ .advance now
  · obtain ⟨request, sends, submits⟩ := act_sends explorer action still
    have exchanges : explorer.exchanged action = (explorer.submitted action).map fun request => sent request.id := by
      cases action with
      | advance now => exact absurd rfl (still now)
      | _ => rfl
    rw [exchanges, submits]
    exact sends_indicates _ _ request log indicates sends
  · obtain ⟨now, same⟩ := not_forall_not.mp still
    subst same
    exact receives_indicates explorer.inbox explorer log indicates

theorem acts_indicate (settleDelay : Time) (actions : List Action) :
    Indicates (actions.foldl act (start false settleDelay)).controller ((start false settleDelay).exchanges actions) := by
  induction actions using List.reverseRecOn with
  | nil => exact start_indicates
  | append_singleton actions action ih =>
      rw [exchanges, along_concat, List.foldl_append]
      exact act_indicates _ action _ ih

theorem last_sent_open (controller : Controller) (log : List Exchange) (indicates : Indicates controller log)
    (legal : Legal log) (number : Nat) (last : log.getLast? = some (sent number)) : Open log number := by
  obtain ⟨front, rfl⟩ := List.getLast?_eq_some_iff.mp last
  refine ⟨by simp, fun member => ?_⟩
  rcases List.mem_append.mp member with early | here
  · obtain ⟨before, after, rfl⟩ := List.append_of_mem early
    obtain ⟨known, _⟩ := legal before _ (after ++ [sent number]) (by simp) number rfl
    exact indicates.latest _ number rfl (List.mem_append_left _ known)
  · simp at here

def searchBar (explorer : Explorer) : Screen.SearchBar :=
  ⟨explorer.controller.input, explorer.controller.focused, explorer.controller.loading⟩

theorem title_loading (bar : Screen.SearchBar) : bar.title = " Search (loading...) " ↔ bar.loading = true := by
  unfold Screen.SearchBar.title
  cases bar.loading <;> decide

theorem indicator_follows_the_last_exchange (settleDelay : Time) (actions : List Action)
    (legal : Legal ((start false settleDelay).exchanges actions)) :
    let explorer := actions.foldl act (start false settleDelay)
    let log := (start false settleDelay).exchanges actions
    (explorer.controller.loading = true ↔ ∃ number, log.getLast? = some (sent number)) ∧
      (∀ number, log.getLast? = some (sent number) → Open log number) ∧
      (Serial log → (explorer.controller.loading = true ↔ ∃ number, Open log number)) ∧
      (explorer.searchBar.title = " Search (loading...) " ↔ explorer.controller.loading = true) ∧
      ∀ width height, ∃ rest, (Screen.draw explorer width height).2 =
        explorer.searchBar.rows width (Screen.Layout.ofHeight height).search ++ rest := by
  intro explorer log
  have indicates : Indicates explorer.controller log := acts_indicate settleDelay actions
  have opens := last_sent_open explorer.controller log indicates legal
  refine ⟨indicates.loading, opens, ?_, title_loading explorer.searchBar, ?_⟩
  · intro serial
    rw [indicates.loading]
    constructor
    · rintro ⟨number, last⟩
      exact ⟨number, opens number last⟩
    · rintro ⟨number, waits⟩
      exact ⟨number, Exchange.serial_open_last log legal serial number waits⟩
  · intro width height
    exact ⟨_, (List.append_assoc _ _ _).trans (List.append_assoc _ _ _)⟩

-- A search is answered before the next is submitted.
def oneByOne : List Action :=
  [.load (some "1") 0, .deliver ⟨1, .failure "none"⟩, .advance 0, .apply .focus 0, .apply (.key .enter) 0]

theorem one_by_one_shows_the_second :
    let explorer := oneByOne.foldl act (start false 200)
    let log := (start false 200).exchanges oneByOne
    log = [sent 1, answered 1, sent 2] ∧ Legal log ∧ Serial log ∧ Open log 2 ∧ explorer.controller.loading = true ∧
      explorer.searchBar.title = " Search (loading...) " := by
  intro explorer log
  have exchanged : log = [sent 1, answered 1, sent 2] := by decide +kernel
  have always (allowed : List Exchange → Exchange → Prop) (first : allowed [] (sent 1))
      (second : allowed [sent 1] (answered 1)) (third : allowed [sent 1, answered 1] (sent 2)) :
      Exchange.Always allowed log := by
    rw [exchanged]
    refine (Exchange.always_concat allowed [sent 1, answered 1] _).mpr ⟨?_, third⟩
    refine (Exchange.always_concat allowed [sent 1] _).mpr ⟨?_, second⟩
    exact (Exchange.always_concat allowed [] _).mpr ⟨Exchange.always_nil allowed, first⟩
  have legal : Legal log := always _ (by simp) (by simp [Open]) (by simp)
  have serial : Serial log := always _ (by simp [Open]) (by simp) (by simp [Open])
  obtain ⟨_, opens, tells, title, _⟩ := indicator_follows_the_last_exchange 200 oneByOne legal
  have second : log.getLast? = some (sent 2) := exchanged ▸ rfl
  have loads := (tells serial).mpr ⟨2, opens 2 second⟩
  exact ⟨exchanged, legal, serial, opens 2 second, loads, title.mpr loads⟩

-- The first of two searches is answered while the second is in flight.
theorem first_answer_ends_the_indicator :
    ¬ ∀ (settleDelay : Time) (actions : List Action), Legal ((start false settleDelay).exchanges actions) →
      ((actions.foldl act (start false settleDelay)).controller.loading = true ↔
        ∃ number, Open ((start false settleDelay).exchanges actions) number) := by
  intro claim
  let actions : List Action :=
    [.load (some "1") 0, .apply .focus 0, .apply (.key .enter) 0, .deliver ⟨1, .failure "no"⟩, .advance 0]
  have exchanged : (start false 200).exchanges actions = [sent 1, sent 2, answered 1] := by decide +kernel
  have legal : Legal ((start false 200).exchanges actions) := by
    rw [exchanged]
    refine (Exchange.always_concat _ [sent 1, sent 2] _).mpr ⟨?_, by simp [Open]⟩
    refine (Exchange.always_concat _ [sent 1] _).mpr ⟨?_, by simp⟩
    exact (Exchange.always_concat _ [] _).mpr ⟨Exchange.always_nil _, by simp⟩
  have loads := (claim 200 actions legal).mpr ⟨2, by simp [exchanged, Open]⟩
  revert loads
  decide +kernel

end Explorer
end ChainExplorer
