import ChainExplorer.Proofs.Explorer.Session
import Mathlib.Data.List.Induction

set_option autoImplicit false

namespace ChainExplorer

open Formatter (Awaits Unsettled Progresses)

namespace Session

def pending (session : Session) : List (Timer.Entry Formatter.Task) := session.explorer.formatter.timers.entries

-- A property of every hash on display and of the work that is pending.
def Shows (session : Session)
    (holds : List (Timer.Entry Formatter.Task) → FieldId → Field → String → Prop) : Prop :=
  session.explorer.view.results.Everywhere (holds session.pending)

theorem drawn_unsettled (results : Results) (width height : Nat) (pending : List (Timer.Entry Formatter.Task))
    (unsettled : results.Everywhere (Unsettled pending)) :
    (Screen.ResultsPane.drawn results width height).Everywhere (Unsettled pending) := by
  intro id field hash found bears hashed
  rw [Screen.ResultsPane.drawn_field] at found
  obtain ⟨old, access, same⟩ := Option.map_eq_some_iff.mp found
  subst same
  exact unsettled id old hash access bears hashed

-- Into the box that it has already, a hash is drawn as it was.
theorem drawn_progresses (results : Results) (width height : Nat) (pending : List (Timer.Entry Formatter.Task))
    (boxed : results.Boxed width) (progresses : results.Everywhere (Progresses pending)) :
    (Screen.ResultsPane.drawn results width height).Everywhere (Progresses pending) := by
  intro id field hash found bears hashed
  have drawn := found
  rw [Screen.ResultsPane.drawn_field] at drawn
  obtain ⟨old, access, _⟩ := Option.map_eq_some_iff.mp drawn
  have same := Screen.ResultsPane.redrawn_field results width height id old access (boxed id old access)
  have alike : old = field := Option.some.inj (same.symm.trans found)
  subst alike
  exact progresses id old hash access bears hashed

theorem retexts_boxed (before after : Results) (width : Nat) (retexts : Results.Retexts before after)
    (boxed : before.Boxed width) : after.Boxed width := by
  intro id field found
  obtain ⟨old, access, _, box⟩ := retexts.fields id field found
  rw [box, boxed id old access, Screen.ResultsPane.value_width_labels before after width retexts.labels.symm]

theorem fresh_awaits (session : Session) (turn : Turn) (base : ContainerId)
    (fresh : (session.answered turn).Fresh base) :
    (session.answered turn).results.Everywhere fun id _ _ => Awaits (session.requested turn).timers.entries id := by
  obtain ⟨container, shown, _, noticed, _⟩ := fresh
  intro id field hash found _ _
  obtain ⟨owner, lookup, _⟩ := Results.field_found _ id field found
  obtain ⟨member, number⟩ := Results.container_found _ id.container owner lookup
  rw [shown, List.mem_singleton] at member
  exact Formatter.request_each_awaits _ turn.now _ id (number ▸ member ▸ noticed)

theorem awaited_frame (session : Session) (turn : Turn) (last : Time) (width : Nat)
    (sound : session.Sound last width) (onward : last ≤ turn.now)
    (awaits : (session.answered turn).results.Everywhere fun id _ _ =>
      Awaits (session.requested turn).timers.entries id) : (session.frame turn).Shows Unsettled := by
  obtain ⟨formatter, results, _⟩ := frame_parts session turn
  have answered := answered_accounted session turn last width sound
  have timely := Formatter.request_each_timely _ turn.now (session.answered turn).rendered
    (Formatter.timely_later _ last turn.now sound.timely onward)
  rw [Shows, pending, formatter, results]
  refine drawn_unsettled _ _ _ _ ?_
  exact Formatter.tick_unsettled _ answered.distinct (session.requested turn) _ turn.now turn.now answered.traces
    timely awaits

theorem frame_unsettled (session : Session) (turn : Turn) (last : Time) (width : Nat)
    (sound : session.Sound last width) (onward : last ≤ turn.now)
    (awaits : session.Shows fun pending id _ _ => Awaits pending id) : (session.frame turn).Shows Unsettled := by
  refine awaited_frame session turn last width sound onward ?_
  rcases answered_view session turn last width sound with ⟨results, formatter⟩ | fresh
  · rw [results, formatter]
    exact awaits
  · exact fresh_awaits session turn _ fresh

theorem frame_progresses (session : Session) (turn : Turn) (last : Time) (sound : session.Sound last turn.width)
    (onward : last ≤ turn.now) (progresses : session.Shows Progresses) :
    (session.frame turn).Shows Progresses := by
  rcases answered_view session turn last turn.width sound with ⟨same, quiet⟩ | fresh
  · obtain ⟨formatter, results, _⟩ := frame_parts session turn
    rw [same, quiet] at formatter results
    have accounted := sound.accounted
    rw [Shows, pending, formatter, results]
    refine drawn_progresses _ _ _ _ ?_ ?_
    · exact retexts_boxed _ _ _ (Formatter.tick_retexts _ _ turn.now) sound.boxed
    · refine Formatter.tick_progresses _ accounted.distinct _ _ turn.now accounted.traces ?_ progresses
      intro _ _ id field _ found unboxed
      rw [sound.boxed id field found] at unboxed
      cases unboxed
  · have unsettled := awaited_frame session turn last turn.width sound onward (fresh_awaits session turn _ fresh)
    exact fun id field hash found bears hashed => .inl (unsettled id field hash found bears hashed)

theorem act_awaits (session : Session) (turn : Turn) (resizes : turn.resizes) :
    (session.act turn).Shows fun pending id _ _ => Awaits pending id := by
  intro id field hash _ _ _
  unfold Turn.resizes at resizes
  cases issued : turn.command with
  | none =>
      rw [issued] at resizes
      cases resizes
  | some command =>
      obtain ⟨command, time⟩ := command
      rw [issued] at resizes
      have resize : command = .resize := by simpa using resizes
      subst resize
      unfold pending act
      rw [issued]
      exact Formatter.request_awaits _ time none id (.inl rfl)

theorem act_progresses (session : Session) (turn : Turn)
    (goesOn : ∀ command time, turn.command = some (command, time) → command ≠ .quit)
    (steady : ¬ turn.resizes) (progresses : session.Shows Progresses) : (session.act turn).Shows Progresses := by
  unfold act
  cases issued : turn.command with
  | none => exact progresses
  | some command =>
      obtain ⟨command, time⟩ := command
      have others : command ≠ .resize := by
        intro resize
        simp [Turn.resizes, issued, resize] at steady
      have formatter := apply_formatter session.explorer command time (goesOn command time issued)
      rw [if_neg others] at formatter
      intro id field hash found bears hashed
      obtain ⟨here, _⟩ := remains_field _ _ (apply_remains session.explorer command time).1 id field found
      unfold pending
      dsimp only
      rw [formatter]
      exact progresses id field hash here bears hashed

def run (ignoreStale : Bool) (settleDelay : Time) (search : Option String) (begin : Time) (turns : List Turn) :
    Session :=
  turns.foldl step (start ignoreStale settleDelay search begin)

-- Time does not go back and the session is not ended.
structure Onward (begin : Time) (turns : List Turn) : Prop where
  times : (begin :: turns.flatMap Turn.times).Pairwise (· ≤ ·)
  goesOn : ∀ turn ∈ turns, ∀ command time, turn.command = some (command, time) → command ≠ .quit

-- Where two drawings differ in width, a command between them or later, but before the last drawing, says so.
def Announced (turns : List Turn) : Prop :=
  ∀ before first second after, turns = before ++ first :: second :: after → first.width ≠ second.width →
    ∃ turn ∈ (first :: second :: after).dropLast, turn.resizes

theorem onward_front (begin : Time) (turns later : List Turn) (onward : Onward begin (turns ++ later)) :
    Onward begin turns := by
  refine ⟨onward.times.sublist ?_, fun turn member => onward.goesOn turn (List.mem_append_left later member)⟩
  rw [List.flatMap_append]
  exact List.Sublist.cons_cons begin (List.sublist_append_left _ _)

theorem onward_begin (begin : Time) (last : Turn) (onward : Onward begin [last]) : begin ≤ last.now :=
  (List.pairwise_cons.mp onward.times).1 last.now (by simp [Turn.times])

-- A turn, its command and the next turn follow each other in time.
theorem onward_last (begin : Time) (turns : List Turn) (turn last : Turn)
    (onward : Onward begin (turns ++ [turn, last])) :
    turn.now ≤ last.now ∧ ∀ command time, turn.command = some (command, time) →
      command ≠ .quit ∧ turn.now ≤ time ∧ time ≤ last.now := by
  have ordered : (turn.times ++ [last.now]).Pairwise (· ≤ ·) := by
    refine onward.times.sublist ?_
    rw [List.flatMap_append, List.flatMap_cons, List.flatMap_cons]
    refine List.Sublist.cons begin (List.Sublist.trans ?_ (List.sublist_append_right _ _))
    exact List.Sublist.append_left (List.singleton_sublist.mpr (by simp [Turn.times])) _
  obtain ⟨first, rest⟩ := List.pairwise_cons.mp ordered
  refine ⟨first last.now (by simp), ?_⟩
  intro command time issued
  refine ⟨onward.goesOn turn (by simp) command time issued, first time (by simp [issued]), ?_⟩
  rw [issued] at rest
  exact (List.pairwise_cons.mp rest).1 last.now (by simp)

-- Unless the last turn but one asks for a pass itself, what was announced with the last drawing was announced
-- before it as well, and the last drawing is as wide as the one before.
theorem announced_front (turns : List Turn) (turn last : Turn) (announced : Announced (turns ++ [turn, last]))
    (steady : ¬ turn.resizes) : Announced (turns ++ [turn]) ∧ turn.width = last.width := by
  constructor
  · intro before first second after same different
    have longer : turns ++ [turn, last] = before ++ first :: second :: (after ++ [last]) := by
      have appended := congrArg (· ++ [last]) same
      simpa using appended
    obtain ⟨other, member, resizes⟩ := announced before first second (after ++ [last]) longer different
    have whole : (first :: second :: (after ++ [last])).dropLast = first :: second :: after := by
      rw [← List.cons_append, ← List.cons_append, List.dropLast_concat]
    rw [whole] at member
    have final : (first :: second :: after).getLast? = some turn := by
      have ends := congrArg List.getLast? same
      rw [List.getLast?_append_cons, List.getLast?_append_cons] at ends
      exact ends.symm
    refine ⟨other, ?_, resizes⟩
    rw [← List.dropLast_append_getLast? turn final, List.mem_append, List.mem_singleton] at member
    rcases member with early | here
    · exact early
    · exact absurd (here ▸ resizes) steady
  · by_contra different
    obtain ⟨other, member, resizes⟩ := announced turns turn last [] rfl different
    have here : other = turn := by simpa using member
    exact steady (here ▸ resizes)

section Runs

variable (ignoreStale : Bool) (settleDelay : Time) (search : Option String) (begin : Time)

theorem run_concat (turns : List Turn) (turn : Turn) :
    run ignoreStale settleDelay search begin (turns ++ [turn]) =
      ((run ignoreStale settleDelay search begin turns).frame turn).act turn := by
  rw [run, List.foldl_append]
  rfl

theorem run_sound (turns : List Turn) (last : Turn) (onward : Onward begin (turns ++ [last])) :
    ((run ignoreStale settleDelay search begin turns).frame last).Sound last.now last.width := by
  induction turns using List.reverseRecOn generalizing last with
  | nil =>
      have started := start_sound ignoreStale settleDelay search begin 0
      exact frame_sound _ last begin 0 started (onward_begin begin last onward)
  | append_singleton turns turn ih =>
      rw [List.append_assoc] at onward
      obtain ⟨later, command⟩ := onward_last begin turns turn last onward
      have before := ih turn (onward_front begin (turns ++ [turn]) [last] (by rwa [List.append_assoc]))
      rw [run_concat]
      exact frame_sound _ last last.now turn.width (act_sound _ turn turn.now last.now turn.width before command later)
        (Nat.le_refl _)

theorem run_progresses (turns : List Turn) (last : Turn) (onward : Onward begin (turns ++ [last]))
    (announced : Announced (turns ++ [last])) :
    ((run ignoreStale settleDelay search begin turns).frame last).Shows Progresses := by
  have settles (session : Session) (unsettled : session.Shows Unsettled) : session.Shows Progresses :=
    fun id field hash found bears hashed => .inl (unsettled id field hash found bears hashed)
  induction turns using List.reverseRecOn generalizing last with
  | nil =>
      have started := start_sound ignoreStale settleDelay search begin 0
      refine settles _ (frame_unsettled _ last begin 0 started (onward_begin begin last onward) ?_)
      intro id field _ found
      cases found
  | append_singleton turns turn ih =>
      have shorter := onward_front begin (turns ++ [turn]) [last] onward
      have before := run_sound ignoreStale settleDelay search begin turns turn shorter
      rw [List.append_assoc] at onward announced
      obtain ⟨later, command⟩ := onward_last begin turns turn last onward
      have acted := act_sound _ turn turn.now last.now turn.width before command later
      rw [run_concat]
      by_cases resizes : turn.resizes
      · exact settles _ (frame_unsettled _ last last.now turn.width acted (Nat.le_refl _) (act_awaits _ turn resizes))
      · obtain ⟨known, steady⟩ := announced_front turns turn last announced resizes
        have shown := act_progresses _ turn (fun other time issued => (command other time issued).1) resizes
          (ih turn shorter known)
        exact frame_progresses _ last last.now (steady ▸ acted) (Nat.le_refl _) shown

theorem field_displayed (made : List Container) (results : Results) (accounted : results.Accounted made)
    (shown : Container) (member : shown ∈ results.containers) (field : Field) (here : field ∈ shown.fields) :
    ∃ id, results.field? id = some field := by
  obtain ⟨index, place⟩ := List.getElem?_of_mem here
  have only : results.containers = [shown] := by
    cases list : results.containers with
    | nil =>
        rw [list] at member
        cases member
    | cons head rest =>
        have alone := accounted.alone
        rw [list, List.length_cons] at alone
        have bare : rest = [] := List.eq_nil_of_length_eq_zero (by omega)
        rw [list, bare, List.mem_singleton] at member
        rw [bare, member]
  have found : results.container? shown.id = some shown := by
    unfold Results.container?
    rw [only]
    simp
  exact ⟨⟨shown.id, index⟩, (Results.field_of_container results ⟨shown.id, index⟩ shown found).trans place⟩

-- What is shown of a field, in a column of the given width, when no work is pending.
structure Settled (width : Nat) (made field : Field) : Prop where
  label : field.label = made.label
  kind : field.kind = made.kind
  hash : ∀ text, made.kind ≠ .plain → made.value = some text → text.length = 64 →
    field.box = some ⟨width, 1⟩ ∧
      field.value = some (if width < Text.joinedWidth text then Hash.abbreviate text else text)

theorem fits_settled (made field : Field) (width : Nat) (derives : made.Derives field)
    (boxed : field.box = some ⟨width, 1⟩)
    (fits : ∀ hash, field.kind.bearsHash → field.hash? = some hash → field.Fits hash) :
    Settled width made field := by
  refine ⟨derives.label, derives.kind, ?_⟩
  intro text unplain value length
  have bears : field.kind.bearsHash := by
    rw [derives.kind]
    cases kind : made.kind <;> first | rfl | exact absurd kind unplain
  have full : Hash.isFull text := by simp [Hash.isFull, Hash.fullLength, length]
  obtain ⟨box, drawn, shown⟩ := fits text bears ((Field.derives_hash made field derives text).mpr ⟨value, full⟩)
  have same : box = ⟨width, 1⟩ := Option.some.inj (drawn.symm.trans boxed)
  subst same
  refine ⟨boxed, shown.trans ?_⟩
  by_cases wide : width < Text.joinedWidth text <;> simp [Box.fit, Box.overflowedBy, wide]

theorem hashes_settle (turns : List Turn) (last : Turn) (onward : Onward begin (turns ++ [last]))
    (announced : Announced (turns ++ [last]))
    (idle : ((run ignoreStale settleDelay search begin turns).frame last).pending = []) :
    let final := (run ignoreStale settleDelay search begin turns).frame last
    let results := final.explorer.view.results
    (final.made.map Container.id).Nodup ∧
      ∀ shown ∈ results.containers, ∃ made ∈ final.made, made.id = shown.id ∧
        List.Forall₂ (Settled (Screen.ResultsPane.valueWidth results last.width)) made.fields shown.fields := by
  intro final results
  have sound : final.Sound last.now last.width := run_sound ignoreStale settleDelay search begin turns last onward
  have shows : results.Everywhere (Progresses []) :=
    idle ▸ run_progresses ignoreStale settleDelay search begin turns last onward announced
  refine ⟨sound.accounted.distinct, ?_⟩
  intro shown member
  obtain ⟨made, known, derives⟩ := sound.accounted.traces shown member
  refine ⟨made, known, derives.id.symm, ?_⟩
  have each : ∀ field ∈ shown.fields, field.box = some ⟨Screen.ResultsPane.valueWidth results last.width, 1⟩ ∧
      ∀ hash, field.kind.bearsHash → field.hash? = some hash → field.Fits hash := by
    intro field here
    obtain ⟨id, found⟩ := field_displayed _ results sound.accounted shown member field here
    refine ⟨sound.boxed id field found, ?_⟩
    intro hash bears hashed
    rcases shows id field hash found bears hashed with (⟨_, none, _⟩ | ⟨⟨_, none, _⟩, _⟩) | fits
    · cases none
    · cases none
    · exact fits
  have related : List.Forall₂ (flip Field.Derives) shown.fields made.fields := derives.fields.flip
  refine List.Forall₂.flip (((List.forall₂_and_left _ _).mpr ⟨each, related⟩).imp ?_)
  intro field original facts
  exact fits_settled original field _ facts.2 facts.1.1 facts.1.2

end Runs

-- A hash is shown on a wide screen, which then becomes narrow. The pass that the change asks for comes due with
-- the one over the new container, and the hash is measured one turn later.
def narrowing : List Turn :=
  let hash := "00000000000000000007878ec04bb2b2e12317804810f4c26033585b3f81ffaa"
  let answer : Search.Completion := ⟨1, .success .block (.object [("hash", .string hash)])⟩
  [⟨[answer], false, 0, 80, 24, some (.resize, 1)⟩, ⟨[], false, 6, 40, 24, none⟩]

def measuring : Turn := ⟨[], false, 7, 40, 24, none⟩

theorem narrowing_settles :
    let final := (run true 5 (some "650000") 0 narrowing).frame measuring
    let results := final.explorer.view.results
    Onward 0 (narrowing ++ [measuring]) ∧ Announced (narrowing ++ [measuring]) ∧ final.pending = [] ∧
      (results.containers.flatMap Container.fields).map Field.value = [some "0000000000...5b3f81ffaa"] ∧
      ∀ shown ∈ results.containers, ∃ made ∈ final.made, made.id = shown.id ∧
        List.Forall₂ (Settled (Screen.ResultsPane.valueWidth results 40)) made.fields shown.fields := by
  have onward : Onward 0 (narrowing ++ [measuring]) := by
    refine ⟨by decide, ?_⟩
    intro turn member command time issued
    rcases List.mem_cons.mp member with first | later
    · subst first
      cases issued
      decide
    · rcases List.mem_cons.mp later with second | last
      · subst second
        cases issued
      · rw [List.mem_singleton.mp last] at issued
        cases issued
  have announced : Announced (narrowing ++ [measuring]) := by
    intro before first second after same different
    cases before with
    | nil =>
        cases same
        exact ⟨_, List.mem_cons_self, rfl⟩
    | cons head before =>
        obtain ⟨_, same⟩ := List.cons.inj same
        cases before with
        | nil =>
            cases same
            exact absurd rfl different
        | cons next before =>
            have lengths := congrArg List.length same
            simp only [List.length_append, List.append_eq, List.length_cons, List.length_nil] at lengths
            omega
  have idle : ((run true 5 (some "650000") 0 narrowing).frame measuring).pending = [] := by decide +kernel
  have shown := (hashes_settle true 5 (some "650000") 0 narrowing measuring onward announced idle).2
  exact ⟨onward, announced, idle, by decide +kernel, shown⟩

end Session
end ChainExplorer
