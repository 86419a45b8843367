import ChainExplorer.Proofs.Explorer.Reachable

set_option autoImplicit false

namespace ChainExplorer

open Search (Completion Request)

-- An explorer under way in its history, with the searches that this has led to, oldest first.
structure Navigation where
  explorer : Explorer
  asked : List Request
  -- Some command has led to another entry.
  moved : Bool

namespace Navigation

inductive Event where
  | back (time : Time)
  | forward (time : Time)
  | pump (answers : List Completion) (now : Time)

def history (navigation : Navigation) : History := navigation.explorer.view.history

def begin (explorer : Explorer) : Navigation := ⟨explorer, [], false⟩

-- Goes on with an explorer that has carried out a command.
def follow (navigation : Navigation) (after : Explorer) : Navigation :=
  { explorer := after
    asked := navigation.asked ++ after.outbox.drop navigation.explorer.outbox.length
    moved := navigation.moved || after.view.history.cursor != navigation.history.cursor }

def step (navigation : Navigation) : Event → Navigation
  | .back time => navigation.follow (navigation.explorer.apply .back time).1
  | .forward time => navigation.follow (navigation.explorer.apply .forward time).1
  | .pump answers now =>
      let delivered := answers.foldl (fun explorer answer => (explorer.deliver answer).1) navigation.explorer
      { navigation with explorer := (delivered.advance now).1 }

def run (explorer : Explorer) (events : List Event) : Navigation := events.foldl step (begin explorer)

-- The answer to a search holds an object that goes into the history under the text that was searched for.
def Answers (asked : List Request) (completion : Completion) : Prop :=
  ∃ request ∈ asked, request.id = completion.id ∧ ∃ rendering, completion.result.rendering? = some rendering ∧
    rendering.aspect.key? rendering.object = some request.query

def Permits (navigation : Navigation) : Event → Prop
  | .pump answers _ => ∀ answer ∈ answers, Answers navigation.asked answer
  | _ => True

def Legal (navigation : Navigation) : List Event → Prop
  | [] => True
  | event :: rest => navigation.Permits event ∧ Legal (navigation.step event) rest

-- The answer to the latest search comes after the landing page has been reached, with more than one entry
-- beyond it.
def Late (navigation : Navigation) : Event → Prop
  | .pump answers _ => navigation.explorer.connected = true ∧ navigation.history.current = none ∧
      2 < navigation.history.size ∧ ∃ answer ∈ answers, navigation.asked.getLast?.map Request.id = some answer.id
  | _ => False

def Punctual (navigation : Navigation) : List Event → Prop
  | [] => True
  | event :: rest => ¬ navigation.Late event ∧ Punctual (navigation.step event) rest

-- What the explorer knows of the searches: the latest is the one it waits for, and is for the current entry or,
-- on the landing page, for the next one.
structure Follows (explorer : Explorer) (asked : List Request) : Prop where
  steady : explorer.Steady
  latest : ∀ request, asked.getLast? = some request → explorer.controller.latest = some request.id
  place : ∀ request, asked.getLast? = some request →
    explorer.view.history.current = some request.query ∨
      (explorer.view.history.current = none ∧ explorer.view.history.entries[1]? = some (some request.query))

structure Sound (navigation : Navigation) (origin : Explorer) : Prop where
  follows : Follows navigation.explorer navigation.asked
  quiet : navigation.explorer.inbox = []
  fresh : ∀ request ∈ navigation.asked, request.id < navigation.explorer.controller.nextRequest
  numbered : navigation.asked.Pairwise fun a b => a.id < b.id
  landing : navigation.moved = true → navigation.history.current = none →
    navigation.explorer.view.results.containers = []
  unmoved : navigation.moved = false → navigation.asked = [] ∧
    navigation.history.current = origin.view.history.current ∧
    navigation.explorer.view.results.containers.map Container.id = origin.view.results.containers.map Container.id

theorem begin_sound (explorer : Explorer) (steady : explorer.Steady) (quiet : explorer.inbox = []) :
    (begin explorer).Sound explorer := by
  constructor
  · exact ⟨steady, fun _ none => (nomatch none), fun _ none => (nomatch none)⟩
  · exact quiet
  · exact fun _ member => (nomatch member)
  · exact List.Pairwise.nil
  · exact fun impossible => (nomatch impossible)
  · exact fun _ => ⟨rfl, rfl, rfl⟩

theorem same_number (asked : List Request) (numbered : asked.Pairwise fun a b => a.id < b.id)
    (first second : Request) (firstAsked : first ∈ asked) (secondAsked : second ∈ asked)
    (same : first.id = second.id) : first = second := by
  have distinct : (asked.map Request.id).Nodup := by
    rw [List.Nodup, List.pairwise_map]
    exact numbered.imp fun less => Nat.ne_of_lt less
  exact List.inj_on_of_nodup_map distinct firstAsked secondAsked same

-- An answer that counts is to the latest search, and goes into the history under its text.
theorem answer_counts (explorer : Explorer) (asked : List Request) (follows : Follows explorer asked)
    (numbered : asked.Pairwise fun a b => a.id < b.id) (completion : Completion) (answers : Answers asked completion)
    (counts : ¬ explorer.controller.isStale completion.id) :
    ∃ request, asked.getLast? = some request ∧ request.id = completion.id ∧
      (explorer.receive completion).view.history = explorer.view.history.push (some request.query) := by
  obtain ⟨request, known, number, rendering, shown, key⟩ := answers
  obtain ⟨last, latest⟩ := Option.ne_none_iff_exists'.mp (mt List.getLast?_eq_none_iff.mp (List.ne_nil_of_mem known))
  rw [Search.Controller.stale_when_filtering _ follows.steady.filtering, follows.latest last latest] at counts
  have lastNumber : last.id = completion.id := by simpa using counts
  have same : last = request := same_number asked numbered last request (List.mem_of_getLast? latest) known
    (lastNumber.trans number.symm)
  subst same
  refine ⟨last, latest, number, ?_⟩
  have rendered : explorer.controller.rendering? completion = some rendering := by
    unfold Search.Controller.rendering?
    rw [if_neg, shown]
    rw [Search.Controller.stale_when_filtering _ follows.steady.filtering, follows.latest last latest, number]
    simp
  unfold Explorer.receive
  rw [rendered]
  exact render_history explorer.view rendering last.query key

theorem receive_follows (explorer : Explorer) (asked : List Request) (follows : Follows explorer asked)
    (numbered : asked.Pairwise fun a b => a.id < b.id) (completion : Completion)
    (answers : Answers asked completion) : Follows (explorer.receive completion) asked := by
  have latest := (Search.Controller.respond_frame explorer.controller completion).2.2
  refine ⟨Explorer.receive_steady explorer follows.steady completion, ?_, ?_⟩
  · exact fun request last => latest.trans (follows.latest request last)
  · intro request last
    by_cases stale : explorer.controller.isStale completion.id
    · rw [Explorer.receive_stale explorer completion stale]
      exact follows.place request last
    · obtain ⟨other, otherLast, _, history⟩ := answer_counts explorer asked follows numbered completion answers stale
      have same : other = request := Option.some.inj (otherLast.symm.trans last)
      subst same
      rw [history]
      exact .inl (History.push_current _ _)

-- An answer that counts takes the place of the landing page, and only there does it change the entries.
theorem receive_history (explorer : Explorer) (asked : List Request) (follows : Follows explorer asked)
    (numbered : asked.Pairwise fun a b => a.id < b.id) (completion : Completion)
    (answers : Answers asked completion) :
    ((explorer.receive completion).view.history.current = none → (explorer.receive completion).view = explorer.view) ∧
      ((explorer.view.history.current = none → 2 < explorer.view.history.size →
        asked.getLast?.map Request.id ≠ some completion.id) →
          (explorer.receive completion).view.history.entries = explorer.view.history.entries) := by
  by_cases stale : explorer.controller.isStale completion.id
  · have same := congrArg Explorer.view (Explorer.receive_stale explorer completion stale)
    exact ⟨fun _ => same, fun _ => congrArg (·.history.entries) same⟩
  · obtain ⟨request, last, number, history⟩ := answer_counts explorer asked follows numbered completion answers stale
    rw [history]
    constructor
    · intro landing
      rw [History.push_current] at landing
      cases landing
    · intro punctual
      rcases follows.place request last with here | ⟨landing, next⟩
      · rw [History.push_same _ _ here]
      · have few : explorer.view.history.size ≤ 2 := by
          by_contra many
          exact punctual landing (by omega) (by rw [last, ← number]; rfl)
        have different : explorer.view.history.current ≠ some request.query := by simp [landing]
        have first := (History.landing_iff _ follows.steady.shaped).mp landing
        rw [(History.push_other _ _ different).1, first]
        obtain ⟨keys, entries, _⟩ := follows.steady.shaped
        unfold History.size at few
        rw [entries] at few next ⊢
        cases keys with
        | nil => simp at next
        | cons key rest =>
            have bare : rest = [] := List.eq_nil_of_length_eq_zero (by simpa using few)
            subst bare
            have same : key = request.query := by simpa using next
            rw [same]
            rfl

theorem receives_follows (answers : List Completion) (explorer : Explorer) (asked : List Request)
    (follows : Follows explorer asked) (numbered : asked.Pairwise fun a b => a.id < b.id)
    (legal : ∀ answer ∈ answers, Answers asked answer) :
    Follows (answers.foldl Explorer.receive explorer) asked := by
  refine List.foldlRecOn (motive := fun after : Explorer => Follows after asked) answers _ follows ?_
  intro after before answer member
  exact receive_follows after asked before numbered answer (legal answer member)

theorem receives_landing (answers : List Completion) (explorer : Explorer) (asked : List Request)
    (follows : Follows explorer asked) (numbered : asked.Pairwise fun a b => a.id < b.id)
    (legal : ∀ answer ∈ answers, Answers asked answer)
    (landing : (answers.foldl Explorer.receive explorer).view.history.current = none) :
    (answers.foldl Explorer.receive explorer).view = explorer.view := by
  induction answers generalizing explorer with
  | nil => rfl
  | cons answer rest ih =>
      have answers := legal answer (by simp)
      have next := receive_follows explorer asked follows numbered answer answers
      have later := ih _ next (fun other member => legal other (List.mem_cons_of_mem _ member)) landing
      have stayed := (receive_history explorer asked follows numbered answer answers).1
      refine later.trans (stayed ?_)
      rw [← later]
      exact landing

theorem receives_entries (answers : List Completion) (explorer : Explorer) (asked : List Request)
    (follows : Follows explorer asked) (numbered : asked.Pairwise fun a b => a.id < b.id)
    (legal : ∀ answer ∈ answers, Answers asked answer)
    (punctual : explorer.view.history.current = none → 2 < explorer.view.history.size →
      ∀ answer ∈ answers, asked.getLast?.map Request.id ≠ some answer.id) :
    (answers.foldl Explorer.receive explorer).view.history.entries = explorer.view.history.entries := by
  induction answers generalizing explorer with
  | nil => rfl
  | cons answer rest ih =>
      have answers := legal answer (by simp)
      have next := receive_follows explorer asked follows numbered answer answers
      obtain ⟨stays, keeps⟩ := receive_history explorer asked follows numbered answer answers
      have kept := keeps fun landing many => punctual landing many answer (by simp)
      refine (ih _ next (fun other member => legal other (List.mem_cons_of_mem _ member)) ?_).trans kept
      intro landing many other member
      have same := stays landing
      rw [same] at landing many
      exact punctual landing many other (List.mem_cons_of_mem _ member)

-- The answers that a pump acts on.
def arriving (navigation : Navigation) (answers : List Completion) : List Completion :=
  if navigation.explorer.connected then answers else []

def pumped (navigation : Navigation) (answers : List Completion) : Explorer :=
  (navigation.arriving answers).foldl Explorer.receive
    { navigation.explorer with inbox := navigation.arriving answers }

theorem pump_parts (navigation : Navigation) (quiet : navigation.explorer.inbox = []) (answers : List Completion)
    (now : Time) :
    let after := (navigation.step (.pump answers now)).explorer
    after.controller = (navigation.pumped answers).controller ∧
      after.view.history = (navigation.pumped answers).view.history ∧ after.inbox = [] ∧
      Results.Retexts (navigation.pumped answers).view.results after.view.results := by
  have delivered := Explorer.delivered_inbox answers navigation.explorer
  rw [quiet, List.nil_append] at delivered
  dsimp only [step]
  rw [delivered]
  exact ⟨rfl, rfl, rfl, Formatter.tick_retexts _ _ now⟩

theorem receives_next_request (answers : List Completion) (explorer : Explorer) :
    (answers.foldl Explorer.receive explorer).controller.nextRequest = explorer.controller.nextRequest := by
  refine List.foldlRecOn
    (motive := fun after : Explorer => after.controller.nextRequest = explorer.controller.nextRequest) answers _ rfl ?_
  intro after before answer _
  exact (Search.Controller.respond_frame after.controller answer).2.1.trans before

theorem arriving_legal (navigation : Navigation) (answers : List Completion)
    (legal : ∀ answer ∈ answers, Answers navigation.asked answer) :
    ∀ answer ∈ navigation.arriving answers, Answers navigation.asked answer := by
  intro answer member
  unfold arriving at member
  split at member
  · exact legal answer member
  · cases member

theorem arriving_follows (navigation : Navigation) (origin : Explorer) (sound : navigation.Sound origin) (answers : List Completion) :
    Follows { navigation.explorer with inbox := navigation.arriving answers } navigation.asked :=
  ⟨⟨sound.follows.steady.filtering, sound.follows.steady.shaped⟩, sound.follows.latest, sound.follows.place⟩

theorem pump_sound (navigation : Navigation) (origin : Explorer) (sound : navigation.Sound origin) (answers : List Completion) (now : Time)
    (legal : ∀ answer ∈ answers, Answers navigation.asked answer) :
    (navigation.step (.pump answers now)).Sound origin := by
  obtain ⟨controller, history, quiet, retexts⟩ := pump_parts navigation sound.quiet answers now
  have ground := arriving_follows navigation origin sound answers
  have arrived := arriving_legal navigation answers legal
  have received : Follows (navigation.pumped answers) navigation.asked :=
    receives_follows _ _ _ ground sound.numbered arrived
  constructor
  · refine ⟨⟨controller ▸ received.steady.filtering, history ▸ received.steady.shaped⟩, ?_, ?_⟩
    · exact controller ▸ received.latest
    · exact history ▸ received.place
  · exact quiet
  · rw [controller]
    unfold pumped
    rw [receives_next_request]
    exact sound.fresh
  · exact sound.numbered
  · intro moved landing
    unfold Navigation.history at landing
    rw [history] at landing
    have same := receives_landing _ _ _ ground sound.numbered arrived landing
    have unchanged : (navigation.pumped answers).view = navigation.explorer.view := same
    have ids := retexts.ids
    rw [unchanged] at landing ids
    rw [sound.landing moved landing] at ids
    exact List.map_eq_nil_iff.mp ids
  · intro still
    obtain ⟨none, place, ids⟩ := sound.unmoved still
    have nothing : navigation.arriving answers = [] := by
      refine List.eq_nil_iff_forall_not_mem.mpr fun answer member => ?_
      obtain ⟨request, impossible, _⟩ := none ▸ arrived answer member
      cases impossible
    have unchanged : (navigation.pumped answers).view = navigation.explorer.view := by
      unfold pumped
      rw [nothing]
      rfl
    rw [unchanged] at history retexts
    exact ⟨none, (congrArg History.current history).trans place, retexts.ids.trans ids⟩

theorem follow_nothing (navigation : Navigation) : navigation.follow navigation.explorer = navigation := by
  simp [follow, history]

-- What a move to another entry leaves behind: that entry, its search and the fact that it was made.
theorem move_parts (navigation : Navigation) (other : History) (apart : other.cursor ≠ navigation.history.cursor) :
    let after := navigation.follow (navigation.explorer.navigate (some other))
    let restored := navigation.explorer.controller.restore navigation.explorer.view.results other.current
    after.explorer.controller = restored.1 ∧ after.explorer.view.results = restored.2.1 ∧ after.history = other ∧
      after.explorer.inbox = navigation.explorer.inbox ∧ after.asked = navigation.asked ++ restored.2.2.toList ∧
      after.moved = true := by
  intro after restored
  have outbox : (navigation.explorer.navigate (some other)).outbox =
      navigation.explorer.outbox ++ restored.2.2.toList := rfl
  refine ⟨rfl, rfl, rfl, rfl, ?_, ?_⟩
  · dsimp only [after, follow]
    rw [outbox, List.drop_left]
  · have differs : (other.cursor != navigation.history.cursor) = true := by simpa using apart
    exact (Bool.or_eq_true _ _).mpr (.inr differs)

-- The landing page is reached from the next entry alone, which is the one that was searched for last.
theorem land_sound (navigation : Navigation) (origin : Explorer) (sound : navigation.Sound origin) (other : History)
    (entries : other.entries = navigation.history.entries) (landing : other.current = none)
    (adjacent : other.cursor + 1 = navigation.history.cursor ∨ other.cursor = navigation.history.cursor + 1) :
    (navigation.follow (navigation.explorer.navigate (some other))).Sound origin := by
  have steady := Explorer.navigate_steady navigation.explorer sound.follows.steady (some other) fun next same =>
    Option.some.inj same ▸ entries
  have first : other.cursor = 0 := (History.landing_iff other steady.shaped).mp landing
  have second : navigation.history.cursor = 1 := by omega
  obtain ⟨controller, results, history, inbox, asked, moved⟩ := move_parts navigation other (by omega)
  rw [landing, Search.Controller.restore_landing] at controller results asked
  rw [Option.toList_none, List.append_nil] at asked
  constructor
  · rw [asked]
    refine ⟨steady, ?_, ?_⟩
    · intro request last
      rw [controller]
      exact sound.follows.latest request last
    · intro request last
      refine .inr ⟨landing, ?_⟩
      rcases sound.follows.place request last with here | ⟨impossible, _⟩
      · have next := navigation.history.current_entry
        rw [second] at next
        exact (congrArg (·[1]?) entries).trans (next.trans (congrArg some here))
      · have start := (History.landing_iff navigation.history sound.follows.steady.shaped).mp impossible
        omega
  · exact inbox.trans sound.quiet
  · rw [asked, controller]
    exact sound.fresh
  · rw [asked]
    exact sound.numbered
  · intro _ _
    rw [results]
    rfl
  · intro still
    rw [moved] at still
    cases still

theorem search_sound (navigation : Navigation) (origin : Explorer) (sound : navigation.Sound origin) (other : History)
    (entries : other.entries = navigation.history.entries) (key : String) (current : other.current = some key)
    (apart : other.cursor ≠ navigation.history.cursor) :
    (navigation.follow (navigation.explorer.navigate (some other))).Sound origin := by
  have steady := Explorer.navigate_steady navigation.explorer sound.follows.steady (some other) fun next same =>
    Option.some.inj same ▸ entries
  have present := History.current_key other steady.shaped key current
  have sends := Search.Controller.restore_sends navigation.explorer.controller navigation.explorer.view.results
    (some key)
  obtain ⟨controller, _, history, inbox, asked, moved⟩ := move_parts navigation other apart
  rw [current] at controller asked
  rw [Search.Controller.restore_key _ _ key present] at asked sends
  obtain ⟨_, _, next, latest, _⟩ := sends
  rw [Option.toList_some] at asked
  constructor
  · rw [asked]
    refine ⟨steady, ?_, ?_⟩
    · intro request last
      rw [List.getLast?_concat] at last
      rw [controller, latest, ← Option.some.inj last]
    · intro request last
      rw [List.getLast?_concat] at last
      rw [← Option.some.inj last]
      exact .inl current
  · exact inbox.trans sound.quiet
  · rw [asked, controller, next]
    intro request member
    rcases List.mem_append.mp member with before | added
    · exact Nat.lt_succ_of_lt (sound.fresh request before)
    · rw [List.mem_singleton.mp added]
      exact Nat.lt_succ_self _
  · rw [asked, List.pairwise_append]
    refine ⟨sound.numbered, List.pairwise_singleton _ _, ?_⟩
    intro request before last added
    rw [List.mem_singleton.mp added]
    exact sound.fresh request before
  · intro _ landing
    rw [history, current] at landing
    cases landing
  · intro still
    rw [moved] at still
    cases still

theorem move_sound (navigation : Navigation) (origin : Explorer) (sound : navigation.Sound origin) (other : History)
    (entries : other.entries = navigation.history.entries)
    (adjacent : other.cursor + 1 = navigation.history.cursor ∨ other.cursor = navigation.history.cursor + 1) :
    (navigation.follow (navigation.explorer.navigate (some other))).Sound origin := by
  cases current : other.current with
  | none => exact land_sound navigation origin sound other entries current adjacent
  | some key => exact search_sound navigation origin sound other entries key current (by omega)

theorem back_step (navigation : Navigation) (origin : Explorer) (sound : navigation.Sound origin) (time : Time) :
    (navigation.step (.back time)).Sound origin ∧
      (navigation.step (.back time)).history.entries = navigation.history.entries := by
  have stepped : navigation.step (.back time) =
      navigation.follow (navigation.explorer.navigate navigation.history.back) := rfl
  rw [stepped]
  cases moved : navigation.history.back with
  | none => exact ⟨(follow_nothing navigation).symm ▸ sound, rfl⟩
  | some other =>
      obtain ⟨entries, cursor⟩ := History.back_frame _ other moved
      exact ⟨move_sound navigation origin sound other entries (.inl cursor), entries⟩

theorem forward_step (navigation : Navigation) (origin : Explorer) (sound : navigation.Sound origin) (time : Time) :
    (navigation.step (.forward time)).Sound origin ∧
      (navigation.step (.forward time)).history.entries = navigation.history.entries := by
  have stepped : navigation.step (.forward time) =
      navigation.follow (navigation.explorer.navigate navigation.history.forward) := rfl
  rw [stepped]
  cases moved : navigation.history.forward with
  | none => exact ⟨(follow_nothing navigation).symm ▸ sound, rfl⟩
  | some other =>
      obtain ⟨entries, cursor⟩ := History.forward_frame _ other moved
      exact ⟨move_sound navigation origin sound other entries (.inr cursor), entries⟩

theorem step_sound (navigation : Navigation) (origin : Explorer) (sound : navigation.Sound origin) (event : Event)
    (permitted : navigation.Permits event) : (navigation.step event).Sound origin := by
  cases event with
  | back time => exact (back_step navigation origin sound time).1
  | forward time => exact (forward_step navigation origin sound time).1
  | pump answers now => exact pump_sound navigation origin sound answers now permitted

theorem step_entries (navigation : Navigation) (origin : Explorer) (sound : navigation.Sound origin) (event : Event)
    (permitted : navigation.Permits event) (punctual : ¬ navigation.Late event) :
    (navigation.step event).history.entries = navigation.history.entries := by
  cases event with
  | back time => exact (back_step navigation origin sound time).2
  | forward time => exact (forward_step navigation origin sound time).2
  | pump answers now =>
      have history := (pump_parts navigation sound.quiet answers now).2.1
      have arrived := arriving_legal navigation answers permitted
      have kept := receives_entries _ _ _ (arriving_follows navigation origin sound answers) sound.numbered arrived ?_
      · exact (congrArg History.entries history).trans kept
      · intro landing many answer member latest
        unfold arriving at member
        split at member
        · rename_i connected
          exact punctual ⟨connected, landing, many, answer, member, latest⟩
        · cases member

theorem legal_sound (navigation : Navigation) (origin : Explorer) (sound : navigation.Sound origin) (events : List Event)
    (legal : navigation.Legal events) : (events.foldl step navigation).Sound origin := by
  induction events generalizing navigation with
  | nil => exact sound
  | cons event rest ih => exact ih _ (step_sound navigation origin sound event legal.1) legal.2

theorem punctual_entries (navigation : Navigation) (origin : Explorer) (sound : navigation.Sound origin) (events : List Event)
    (legal : navigation.Legal events) (punctual : navigation.Punctual events) :
    (events.foldl step navigation).history.entries = navigation.history.entries := by
  induction events generalizing navigation with
  | nil => rfl
  | cons event rest ih =>
      have kept := step_entries navigation origin sound event legal.1 punctual.1
      exact (ih _ (step_sound navigation origin sound event legal.1) legal.2 punctual.2).trans kept

theorem moves_are_not_undone (explorer : Explorer) (reachable : explorer.Reachable) (quiet : explorer.inbox = [])
    (events : List Event) (legal : (begin explorer).Legal events) :
    let navigation := run explorer events
    ((begin explorer).Punctual events → navigation.history.entries = explorer.view.history.entries) ∧
      (navigation.history.current = none →
        navigation.explorer.view.results.containers = [] ∨
          (navigation.moved = false ∧ explorer.view.history.current = none ∧
            explorer.view.results.containers ≠ [])) := by
  intro navigation
  have begun := begin_sound explorer (Explorer.reachable_steady explorer reachable) quiet
  have sound : navigation.Sound explorer := legal_sound (begin explorer) explorer begun events legal
  refine ⟨punctual_entries (begin explorer) explorer begun events legal, ?_⟩
  intro landing
  cases moved : navigation.moved with
  | true => exact .inl (sound.landing moved landing)
  | false =>
      obtain ⟨_, place, ids⟩ := sound.unmoved moved
      by_cases bare : explorer.view.results.containers = []
      · rw [bare] at ids
        exact .inl (List.map_eq_nil_iff.mp ids)
      · exact .inr ⟨rfl, place.symm.trans landing, bare⟩

-- An object with a hash, or with none.
def found (number : Nat) (hash : Option String) : Completion :=
  ⟨number, .success .block (.object (hash.toList.map fun text => ("hash", .string text)))⟩

-- Two searches, one after the other.
def visiting : List Explorer.Action :=
  [.load (some "1") 0, .deliver (found 1 (some "00aa")), .advance 0, .apply .focus 0, .apply (.key .enter) 0,
   .deliver (found 2 (some "00bb")), .advance 0]

def visited : Explorer := List.foldl Explorer.act (.start true 0) visiting

-- Back and forward again before any answer comes, and then to the landing page.
def wandering : List Event :=
  [.back 1, .forward 1, .pump [found 4 (some "00bb"), found 3 (some "00aa")] 2, .back 3, .back 3]

theorem wandering_is_not_undone :
    let navigation := run visited wandering
    visited.Reachable ∧ visited.inbox = [] ∧ (begin visited).Legal wandering ∧ (begin visited).Punctual wandering ∧
      navigation.history.entries = [none, some "00aa", some "00bb"] ∧ navigation.history.current = none ∧
      navigation.explorer.view.results.containers = [] := by
  have reachable : visited.Reachable := ⟨0, visiting, rfl⟩
  have quiet : visited.inbox = [] := by decide +kernel
  have legal : (begin visited).Legal wandering := by
    refine ⟨trivial, trivial, ?_, trivial, trivial, trivial⟩
    intro answer member
    rcases List.mem_cons.mp member with first | later
    · subst first
      exact ⟨⟨4, "00bb"⟩, by decide +kernel, rfl, ⟨.block, .object [("hash", .string "00bb")]⟩, rfl, by decide +kernel⟩
    · rw [List.mem_singleton.mp later]
      exact ⟨⟨3, "00aa"⟩, by decide +kernel, rfl, ⟨.block, .object [("hash", .string "00aa")]⟩, rfl, by decide +kernel⟩
  have punctual : (begin visited).Punctual wandering := by
    refine ⟨id, id, ?_, id, id, trivial⟩
    rintro ⟨_, landing, _⟩
    revert landing
    decide +kernel
  have holds := moves_are_not_undone visited reachable quiet wandering legal
  have landing : (run visited wandering).history.current = none := by decide +kernel
  have entries : visited.view.history.entries = [none, some "00aa", some "00bb"] := by decide +kernel
  refine ⟨reachable, quiet, legal, punctual, (holds.1 punctual).trans entries, landing, ?_⟩
  rcases holds.2 landing with empty | ⟨_, impossible, _⟩
  · exact empty
  · revert impossible
    decide +kernel

-- On the landing page the latest search still counts, and an object without a hash is shown without an entry.
theorem replays_may_undo_moves :
    (¬ ∀ (explorer : Explorer) (events : List Event), explorer.Reachable →
        explorer.inbox = [] ∧ explorer.controller.loading = false → (begin explorer).Legal events →
        (run explorer events).history.entries = explorer.view.history.entries) ∧
      ¬ ∀ (explorer : Explorer) (events : List Event), explorer.Reachable →
        explorer.inbox = [] ∧ explorer.controller.loading = false → (begin explorer).Legal events →
        (run explorer events).history.current = none → (run explorer events).explorer.view.results.containers = [] := by
  constructor
  · intro claim
    have same := claim visited [.back 1, .back 1, .pump [found 3 (some "00aa")] 2] ⟨0, visiting, rfl⟩
      (by decide +kernel) ?_
    · revert same
      decide +kernel
    · refine ⟨trivial, trivial, ?_, trivial⟩
      intro answer member
      rw [List.mem_singleton.mp member]
      exact ⟨⟨3, "00aa"⟩, by decide +kernel, rfl, ⟨.block, .object [("hash", .string "00aa")]⟩, rfl, by decide +kernel⟩
  · intro claim
    have bare := claim (List.foldl Explorer.act (.start true 0) [.load (some "1") 0, .deliver (found 1 none), .advance 0])
      [] ⟨0, _, rfl⟩ (by decide +kernel) trivial (by decide +kernel)
    revert bare
    decide +kernel

end Navigation
end ChainExplorer
