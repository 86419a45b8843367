import ChainExplorer.Proofs.Search.Submission

set_option autoImplicit false

namespace ChainExplorer.Search

-- A controller at work, with the results that a visit without a hash clears and a screen of any kind that
-- shows its answers. Requests and answers are logged, oldest first.
structure Traffic (Screen : Type) where
  controller : Controller
  results : Results
  screen : Screen
  requests : List Request
  answers : List (Completion × Outcome)

namespace Traffic

inductive Event where
  | focus
  | blur
  | press (key : Key)
  | edit (key : Key)
  | release
  | type (key : Key)
  | load (search : Option String)
  | restore (visit : Visit)
  | respond (completion : Completion)

variable {Screen : Type} (paint : Rendering → Screen → Screen)

def start (results : Results) (screen : Screen) : Traffic Screen :=
  ⟨.withIgnoreStale true, results, screen, [], []⟩

-- Goes on with a controller that may have sent a request.
def send (traffic : Traffic Screen) (step : Controller × Option Request) : Traffic Screen :=
  { traffic with controller := step.1, requests := traffic.requests ++ step.2.toList }

def respond (traffic : Traffic Screen) (completion : Completion) : Traffic Screen :=
  { traffic with
    controller := traffic.controller.respond completion
    screen := match traffic.controller.rendering? completion with
      | none => traffic.screen
      | some rendering => paint rendering traffic.screen
    answers := traffic.answers ++ [(completion, traffic.controller.outcome completion)] }

def step (traffic : Traffic Screen) : Event → Traffic Screen
  | .focus => { traffic with controller := traffic.controller.focus }
  | .blur => { traffic with controller := traffic.controller.blur }
  | .press key => traffic.send (traffic.controller.press key)
  | .edit key => { traffic with controller := traffic.controller.edit key }
  | .release => { traffic with controller := traffic.controller.release }
  | .type key => traffic.send (traffic.controller.type key)
  | .load search => traffic.send (traffic.controller.load search)
  | .restore visit =>
      let (controller, results, request) := traffic.controller.restore traffic.results visit
      { traffic with results }.send (controller, request)
  | .respond completion => traffic.respond paint completion

-- A completion answers a request that has been sent and has not been answered.
def Permits (traffic : Traffic Screen) : Event → Prop
  | .respond completion =>
      (∃ request ∈ traffic.requests, request.id = completion.id) ∧
        ∀ answer ∈ traffic.answers, answer.1.id ≠ completion.id
  | _ => True

def Legal (traffic : Traffic Screen) : List Event → Prop
  | [] => True
  | event :: rest => traffic.Permits event ∧ Legal (traffic.step paint event) rest

def run (results : Results) (screen : Screen) (events : List Event) : Traffic Screen :=
  events.foldl (step paint) (start results screen)

def latest? (traffic : Traffic Screen) : Option Nat := traffic.requests.getLast?.map Request.id

-- The numbers of the answers that were not dropped.
def accepted (traffic : Traffic Screen) : List Nat :=
  (traffic.answers.filter fun answer => answer.2 ≠ .stale).map fun answer => answer.1.id

def Answered (traffic : Traffic Screen) (number : Nat) : Prop := ∃ answer ∈ traffic.answers, answer.1.id = number

-- Every accepted number was the latest when it was answered, so the latest bounds them all. This is what
-- orders them, together with the fact that no number is answered twice.
structure Sound (traffic : Traffic Screen) : Prop where
  filtering : traffic.controller.ignoreStale = true
  latest : traffic.controller.latest = traffic.latest?
  fresh : ∀ request ∈ traffic.requests, request.id < traffic.controller.nextRequest
  asked : ∀ answer ∈ traffic.answers, ∃ request ∈ traffic.requests, request.id = answer.1.id
  loading : traffic.controller.loading = true ↔ ∃ number, traffic.latest? = some number ∧ ¬ traffic.Answered number
  bounded : ∀ number ∈ traffic.accepted, ∃ last, traffic.latest? = some last ∧ number ≤ last
  increasing : traffic.accepted.Pairwise (· < ·)

theorem start_sound (results : Results) (screen : Screen) : (start results screen).Sound where
  filtering := rfl
  latest := rfl
  fresh := by simp [start]
  asked := by simp [start]
  loading := by simp [start, latest?, Controller.withIgnoreStale]
  bounded := by simp [start, accepted]
  increasing := by simp [start, accepted]

theorem latest_sent (traffic : Traffic Screen) (controller : Controller) (request : Request) :
    (traffic.send (controller, some request)).latest? = some request.id := by
  simp [latest?, send]

theorem latest_request (traffic : Traffic Screen) (number : Nat) (latest : traffic.latest? = some number) :
    ∃ request ∈ traffic.requests, request.id = number := by
  obtain ⟨request, last, same⟩ := Option.map_eq_some_iff.mp latest
  exact ⟨request, List.mem_of_getLast? last, same⟩

theorem send_sound (traffic : Traffic Screen) (sound : traffic.Sound) (step : Controller × Option Request)
    (sends : traffic.controller.Sends step) : (traffic.send step).Sound := by
  obtain ⟨controller, request⟩ := step
  cases request with
  | none =>
      obtain ⟨filter, next, latest, loading⟩ := sends
      have same : (traffic.send (controller, none)).requests = traffic.requests := List.append_nil _
      have sameLatest : (traffic.send (controller, none)).latest? = traffic.latest? :=
        congrArg (fun requests => requests.getLast?.map Request.id) same
      constructor
      · exact filter.trans sound.filtering
      · exact latest.trans (sound.latest.trans sameLatest.symm)
      · intro request member
        exact next ▸ sound.fresh request (same ▸ member)
      · intro answer member
        exact same ▸ sound.asked answer member
      · rw [sameLatest]
        exact (iff_of_eq (congrArg (· = true) loading)).trans sound.loading
      · rw [sameLatest]
        exact sound.bounded
      · exact sound.increasing
  | some request =>
      obtain ⟨filter, number, next, latest, loading⟩ := sends
      have older (other : Request) (member : other ∈ traffic.requests) : other.id < request.id :=
        number ▸ sound.fresh other member
      constructor
      · exact filter.trans sound.filtering
      · exact latest.trans (latest_sent traffic controller request).symm
      · intro other member
        change other.id < controller.nextRequest
        rw [next]
        rcases List.mem_append.mp member with before | added
        · exact Nat.lt_succ_of_lt (older other before)
        · rw [List.mem_singleton.mp added]
          exact Nat.lt_succ_self _
      · intro answer member
        obtain ⟨other, known, same⟩ := sound.asked answer member
        exact ⟨other, List.mem_append_left _ known, same⟩
      · refine ⟨fun _ => ⟨request.id, latest_sent traffic controller request, ?_⟩, fun _ => loading⟩
        rintro ⟨answer, member, same⟩
        obtain ⟨other, known, asked⟩ := sound.asked answer member
        exact Nat.ne_of_lt (older other known) (asked.trans same)
      · intro accepted member
        obtain ⟨last, latestBefore, bound⟩ := sound.bounded accepted member
        obtain ⟨other, known, same⟩ := latest_request traffic last latestBefore
        refine ⟨request.id, latest_sent traffic controller request, ?_⟩
        exact Nat.le_of_lt (Nat.lt_of_le_of_lt bound (same ▸ older other known))
      · exact sound.increasing

theorem accepted_respond (traffic : Traffic Screen) (completion : Completion) :
    (traffic.respond paint completion).accepted =
      traffic.accepted ++ if traffic.controller.isStale completion.id then [] else [completion.id] := by
  by_cases stale : traffic.controller.isStale completion.id
  · have outcome := (Controller.outcome_stale traffic.controller completion).mpr stale
    simp [accepted, respond, outcome, stale]
  · have outcome := mt (Controller.outcome_stale traffic.controller completion).mp stale
    simp [accepted, respond, outcome, stale]

theorem answered_respond (traffic : Traffic Screen) (completion : Completion) (number : Nat) :
    (traffic.respond paint completion).Answered number ↔ traffic.Answered number ∨ completion.id = number := by
  simp [Answered, respond, or_and_right, exists_or]

theorem stale_iff (traffic : Traffic Screen) (sound : traffic.Sound) (number : Nat) :
    traffic.controller.isStale number ↔ traffic.latest? ≠ some number := by
  rw [← sound.latest]
  exact Controller.stale_when_filtering traffic.controller sound.filtering number

theorem respond_loads (traffic : Traffic Screen) (sound : traffic.Sound) (completion : Completion) :
    (traffic.controller.respond completion).loading = true ↔
      ∃ number, traffic.latest? = some number ∧ ¬ (traffic.respond paint completion).Answered number := by
  have stale := stale_iff traffic sound completion.id
  by_cases dropped : traffic.controller.isStale completion.id
  · rw [Controller.respond_stale _ _ dropped, sound.loading]
    refine exists_congr fun number => and_congr_right fun latest => not_congr ?_
    rw [answered_respond]
    refine ⟨.inl, fun either => either.resolve_right ?_⟩
    rintro rfl
    exact stale.mp dropped latest
  · rw [Controller.respond_loading _ _ dropped]
    refine ⟨fun impossible => (nomatch impossible), ?_⟩
    rintro ⟨number, latest, missing⟩
    refine absurd ((answered_respond paint traffic completion number).mpr (.inr ?_)) missing
    rw [stale, latest] at dropped
    simpa [eq_comm] using dropped

theorem respond_bounded (traffic : Traffic Screen) (sound : traffic.Sound) (completion : Completion)
    (number : Nat) (member : number ∈ (traffic.respond paint completion).accepted) :
    ∃ last, traffic.latest? = some last ∧ number ≤ last := by
  rw [accepted_respond] at member
  rcases List.mem_append.mp member with before | added
  · exact sound.bounded number before
  · by_cases dropped : traffic.controller.isStale completion.id
    · simp [dropped] at added
    · have same : number = completion.id := by simpa [dropped] using added
      rw [stale_iff traffic sound] at dropped
      exact ⟨completion.id, by simpa using dropped, Nat.le_of_eq same⟩

theorem respond_increasing (traffic : Traffic Screen) (sound : traffic.Sound) (completion : Completion)
    (unanswered : ¬ traffic.Answered completion.id) :
    (traffic.respond paint completion).accepted.Pairwise (· < ·) := by
  rw [accepted_respond]
  by_cases dropped : traffic.controller.isStale completion.id
  · simpa [dropped] using sound.increasing
  · rw [if_neg dropped, List.pairwise_append]
    refine ⟨sound.increasing, List.pairwise_singleton _ _, ?_⟩
    intro number before last added
    rw [List.mem_singleton.mp added]
    obtain ⟨bound, latest, atMost⟩ := sound.bounded number before
    rw [stale_iff traffic sound, latest] at dropped
    have top : bound = completion.id := by simpa using dropped
    refine Nat.lt_of_le_of_ne (top ▸ atMost) ?_
    rintro rfl
    obtain ⟨answer, kept, same⟩ := List.mem_map.mp before
    exact unanswered ⟨answer, (List.mem_filter.mp kept).1, same⟩

theorem respond_sound (traffic : Traffic Screen) (sound : traffic.Sound) (completion : Completion)
    (permitted : traffic.Permits (.respond completion)) : (traffic.respond paint completion).Sound := by
  obtain ⟨⟨request, known, asked⟩, unanswered⟩ := permitted
  obtain ⟨filter, next, latest⟩ := Controller.respond_frame traffic.controller completion
  constructor
  · exact filter.trans sound.filtering
  · exact latest.trans sound.latest
  · intro other member
    exact next ▸ sound.fresh other member
  · intro answer member
    rcases List.mem_append.mp member with before | added
    · exact sound.asked answer before
    · rw [List.mem_singleton.mp added]
      exact ⟨request, known, asked⟩
  · exact respond_loads paint traffic sound completion
  · exact respond_bounded paint traffic sound completion
  · exact respond_increasing paint traffic sound completion fun ⟨answer, member, same⟩ => unanswered answer member same

theorem step_sound (traffic : Traffic Screen) (sound : traffic.Sound) (event : Event)
    (permitted : traffic.Permits event) : (traffic.step paint event).Sound := by
  cases event with
  | press key => exact send_sound traffic sound _ (Controller.press_sends traffic.controller key)
  | type key => exact send_sound traffic sound _ (Controller.type_sends traffic.controller key)
  | load search => exact send_sound traffic sound _ (Controller.load_sends traffic.controller search)
  | restore visit =>
      have cleared : Sound { traffic with results := (traffic.controller.restore traffic.results visit).2.1 } :=
        ⟨sound.filtering, sound.latest, sound.fresh, sound.asked, sound.loading, sound.bounded, sound.increasing⟩
      exact send_sound _ cleared _ (Controller.restore_sends traffic.controller traffic.results visit)
  | respond completion => exact respond_sound paint traffic sound completion permitted
  | _ =>
      exact ⟨sound.filtering, sound.latest, sound.fresh, sound.asked, sound.loading, sound.bounded, sound.increasing⟩

theorem legal_sound (traffic : Traffic Screen) (sound : traffic.Sound) (events : List Event)
    (legal : traffic.Legal paint events) : (events.foldl (step paint) traffic).Sound := by
  induction events generalizing traffic with
  | nil => exact sound
  | cons event rest ih => exact ih (traffic.step paint event) (step_sound paint traffic sound event legal.1) legal.2

theorem only_the_latest_counts (results : Results) (screen : Screen) (events : List Event)
    (legal : (start results screen).Legal paint events) :
    let traffic := run paint results screen events
    (∀ completion, traffic.controller.rendering? completion ≠ none → traffic.latest? = some completion.id) ∧
      traffic.accepted.Pairwise (· < ·) ∧
      (traffic.controller.loading = true ↔
        ∃ number, traffic.latest? = some number ∧ ¬ traffic.Answered number) ∧
      ∀ completion, traffic.controller.outcome completion = .stale →
        (traffic.respond paint completion).controller = traffic.controller ∧
          (traffic.respond paint completion).results = traffic.results ∧
          (traffic.respond paint completion).screen = traffic.screen := by
  intro traffic
  have sound : traffic.Sound := legal_sound paint _ (start_sound results screen) events legal
  refine ⟨?_, sound.increasing, sound.loading, ?_⟩
  · intro completion rendered
    by_cases dropped : traffic.controller.isStale completion.id
    · exact absurd (if_pos dropped) rendered
    · rw [stale_iff traffic sound] at dropped
      simpa using dropped
  · intro completion outcome
    have dropped := (Controller.outcome_stale traffic.controller completion).mp outcome
    have silent : traffic.controller.rendering? completion = none := if_pos dropped
    refine ⟨Controller.respond_stale _ _ dropped, rfl, ?_⟩
    simp only [respond, silent]

-- Two searches overlap, and the second is answered first.
def overlapping : List Event :=
  [.load (some "650000"), .restore (some "00ff"), .respond ⟨2, .success .block .null⟩,
   .respond ⟨1, .success .address .null⟩]

theorem overlapping_shows_the_second :
    let traffic := run (fun rendering shown => shown ++ [rendering]) .empty ([] : List Rendering) overlapping
    traffic.screen.map Rendering.aspect = [.block] ∧ traffic.controller.loading = false ∧
      traffic.accepted = [2] ∧ traffic.accepted.Pairwise (· < ·) := by
  have legal : (start .empty ([] : List Rendering)).Legal (fun rendering shown => shown ++ [rendering])
      overlapping := by
    refine ⟨trivial, trivial, ⟨⟨⟨2, "00ff"⟩, by decide, rfl⟩, ?_⟩, ⟨⟨⟨1, "650000"⟩, by decide, rfl⟩, ?_⟩, trivial⟩
    · intro answer member
      cases member
    · intro answer member
      cases member with
      | head => decide
      | tail _ later => cases later
  exact ⟨by decide, by decide, by decide, (only_the_latest_counts _ .empty [] overlapping legal).2.1⟩

end Traffic
end ChainExplorer.Search
