import ChainExplorer.Proofs.Formatter.Reach
import ChainExplorer.Proofs.Formatter.Settling
import ChainExplorer.Proofs.Timer.Index

set_option autoImplicit false

namespace ChainExplorer

-- What a box shows of a hash. A field that was never drawn has room enough.
def Hash.shownIn (hash : String) : Option Box → String
  | none => hash
  | some box =>
      if box.width < Text.joinedWidth hash ∨ (box.height = 0 ∧ 0 < Text.joinedWidth hash) then Hash.abbreviate hash
      else hash

theorem Box.fit_shown (box : Box) (hash : String) : box.fit hash = Hash.shownIn hash (some box) := by
  simp [Box.fit, Box.overflowedBy, Hash.shownIn]

namespace Field

theorem undrawn_measured (field : Field) (undrawn : field.box = none) : field.measured = field :=
  measured_fitting field (by simp [overflowingHash?, isOverflowing, undrawn])

theorem measured_box (field : Field) : field.measured.box = field.box := by
  rw [measured]
  split <;> rfl

theorem fits_shown (field : Field) (hash : String) (box : Box) (drawn : field.box = some box) :
    field.Fits hash ↔ field.value = some (Hash.shownIn hash field.box) := by
  simp [Fits, drawn, Box.fit_shown]

theorem restored_measured (field : Field) (hash : String) (restored : field.Restored hash) :
    field.measured.value = some (Hash.shownIn hash field.measured.box) := by
  cases drawn : field.box with
  | none => rw [undrawn_measured field drawn, drawn, restored.1, Hash.shownIn]
  | some box =>
      have kept := (measured_box field).trans drawn
      exact (fits_shown field.measured hash box kept).mp (restored_measured_fits field hash box drawn restored)

-- A text that is shown as the box allows may be measured once more.
theorem shown_measured (field : Field) (hash : String) (coherent : field.Coherent) (hashed : field.hash? = some hash)
    (shown : field.value = some (Hash.shownIn hash field.box)) :
    field.measured.value = some (Hash.shownIn hash field.measured.box) := by
  cases drawn : field.box with
  | none => rw [undrawn_measured field drawn, shown]
  | some box =>
      have kept := (measured_box field).trans drawn
      have fits := (fits_shown field hash box drawn).mpr shown
      exact (fits_shown field.measured hash box kept).mp (fits_measured_fits field hash coherent hashed fits)

theorem in_full_box (field : Field) : field.inFull.box = field.box := by
  rw [inFull]
  split <;> rfl

theorem derives_in_full (made field : Field) (derives : made.Derives field) (bears : made.kind.bearsHash) :
    made.Derives field.inFull := by
  cases found : field.hash? with
  | none => rwa [in_full_unhashed field found]
  | some hash =>
      rw [in_full_hashed field hash found]
      exact derives_reset made field derives bears hash found

theorem derives_measured (made field : Field) (derives : made.Derives field) : made.Derives field.measured := by
  cases found : field.overflowingHash? with
  | none => rwa [measured_fitting field found]
  | some hash =>
      rw [measured_overflowing field hash found]
      exact derives_abbreviated made field derives hash found

end Field

namespace Formatter

theorem request_consistent (formatter : Formatter) (now : Time) (scope : Option ContainerId)
    (consistent : formatter.timers.Consistent) : (formatter.request now scope).1.timers.Consistent := by
  cases scope with
  | some container => exact Timer.schedule_consistent _ _ _ _ consistent
  | none =>
      refine Timer.schedule_consistent _ _ _ _ ?_
      rw [cancelGlobal]
      split
      · exact consistent
      · exact Timer.cancel_consistent _ _ consistent

theorem run_pass_consistent (formatter : Formatter) (results : Results) (now : Time) (scope : Option ContainerId)
    (consistent : formatter.timers.Consistent) :
    (formatter.runPass results now scope).formatter.timers.Consistent := by
  refine List.foldlRecOn (motive := fun pass : Pass => pass.formatter.timers.Consistent) _ _ consistent ?_
  intro pass before id _
  cases found : (pass.results.field? id).bind Field.hash? with
  | none => rwa [visit_skips now pass id found]
  | some hash =>
      rw [visit_resets now pass id hash found]
      exact Timer.schedule_consistent _ _ _ _ before

theorem handle_consistent (formatter : Formatter) (results : Results) (now : Time) (due : Timer.Entry Task)
    (consistent : formatter.timers.Consistent) : (formatter.handle results now due).1.timers.Consistent := by
  rcases task_pass_or_measure due.task with ⟨scope, passes⟩ | ⟨id, measures⟩
  · obtain ⟨ground, timers, same⟩ := handle_pass formatter results now due scope passes
    rw [same]
    exact run_pass_consistent ground results now scope (timers ▸ consistent)
  · rwa [(handle_measure formatter results now due id measures).1]

namespace Document

theorem step_consistent (document : Document) (step : Step) (consistent : document.formatter.timers.Consistent) :
    (document.step step).formatter.timers.Consistent := by
  cases step with
  | create title fields => exact consistent
  | push source =>
      rw [Document.step]
      split <;> exact consistent
  | replace source =>
      rw [Document.step]
      split <;> exact consistent
  | clear => exact consistent
  | setBox id box => exact consistent
  | draw width height => exact consistent
  | request now scope => exact request_consistent _ now scope consistent
  | handle now due => exact handle_consistent _ _ now due consistent

theorem run_consistent (settleDelay : Time) (steps : List Step) :
    (run settleDelay steps).formatter.timers.Consistent := by
  refine List.foldlRecOn (motive := fun document : Document => document.formatter.timers.Consistent) steps _
    Timer.empty_consistent ?_
  intro document before step _
  exact step_consistent document step before

inductive Event where
  | pass (now : Time) (scope : Option ContainerId)
  -- The measurement that is pending under a number is carried out, whatever else is pending.
  | measure (now : Time) (timer : TimerId)
  | setBox (id : FieldId) (box : Box)

def Event.PassesOver (id : FieldId) : Event → Prop
  | .pass _ scope => scope = none ∨ scope = some id.container
  | _ => False

def measurement? (document : Document) (timer : TimerId) : Option (Timer.Entry Task × FieldId) :=
  match document.formatter.timers.entries.find? fun entry => entry.id == timer with
  | none => none
  | some entry =>
      match entry.task with
      | .measure id => some (entry, id)
      | _ => none

def perform (document : Document) : Event → Document
  | .pass now scope =>
      let pass := document.formatter.runPass document.results now scope
      { document with formatter := pass.formatter, results := pass.results }
  | .measure now timer =>
      match document.measurement? timer with
      | none => document
      | some (entry, _) =>
          let ground := { document.formatter with timers := (document.formatter.timers.cancel timer).1 }
          let (formatter, results) := ground.handle document.results now entry
          { document with formatter, results }
  | .setBox id box => { document with results := document.results.update id (·.setBox box) }

theorem measurement_found (document : Document) (timer : TimerId) (entry : Timer.Entry Task) (id : FieldId)
    (found : document.measurement? timer = some (entry, id)) :
    entry ∈ document.formatter.timers.entries ∧ entry.id = timer ∧ entry.task = .measure id := by
  rw [measurement?] at found
  split at found
  · cases found
  · rename_i other here
    split at found
    · rename_i place task
      cases found
      exact ⟨List.mem_of_find?_eq_some here, by simpa using List.find?_some here, task⟩
    · cases found

theorem perform_sound (document : Document) (sound : document.Sound) (event : Event) : (document.perform event).Sound := by
  cases event with
  | pass now scope =>
      have distinct : (document.made.map Container.id).Nodup := sound.numbers ▸ List.nodup_range
      have traces := traces_run_pass document.made distinct document.formatter document.results now scope sound.traces
      have retexts := run_pass_retexts document.formatter document.results now scope
      exact ⟨traces, sound.untouched, sound.numbers.trans (congrArg List.range retexts.nextId.symm)⟩
  | measure now timer =>
      rw [perform]
      cases document.measurement? timer with
      | none => exact sound
      | some pair =>
          let ground : Formatter := { document.formatter with timers := (document.formatter.timers.cancel timer).1 }
          have ready : Sound { document with formatter := ground } := ⟨sound.traces, sound.untouched, sound.numbers⟩
          exact step_sound { document with formatter := ground } ready (.handle now pair.1)
  | setBox id box => exact step_sound document sound (.setBox id box)

theorem perform_consistent (document : Document) (consistent : document.formatter.timers.Consistent) (event : Event) :
    (document.perform event).formatter.timers.Consistent := by
  cases event with
  | pass now scope => exact run_pass_consistent _ _ now scope consistent
  | measure now timer =>
      rw [perform]
      cases document.measurement? timer with
      | none => exact consistent
      | some pair => exact handle_consistent _ _ now pair.1 (Timer.cancel_consistent _ timer consistent)
  | setBox id box => exact consistent

theorem performs_made (events : List Event) (document : Document) :
    (events.foldl perform document).made = document.made := by
  refine List.foldlRecOn (motive := fun after : Document => after.made = document.made) events _ rfl ?_
  intro after same event _
  cases event with
  | measure now timer =>
      rw [perform]
      split <;> exact same
  | _ => exact same

-- Whatever was passed over, measured and drawn before, the log still tells what each field was made with.
theorem performs_ready (events : List Event) (document : Document) (sound : document.Sound)
    (consistent : document.formatter.timers.Consistent) :
    (events.foldl perform document).Sound ∧ (events.foldl perform document).formatter.timers.Consistent := by
  induction events generalizing document with
  | nil => exact ⟨sound, consistent⟩
  | cons event rest ih =>
      exact ih (document.perform event) (perform_sound document sound event) (perform_consistent document consistent event)

-- A pass over a hash leaves it in full and to be measured; a measurement leaves it as its box allows.
def Awaited (document : Document) (id : FieldId) (hash : String) (field : Field) : Prop :=
  (Measures document.formatter.timers.entries id ∧ field.Restored hash) ∨
    field.value = some (Hash.shownIn hash field.box)

-- A field that was made with a hash, wherever passes and measurements have got to.
structure Formatting (document : Document) (id : FieldId) (original : Field) (hash : String) (box : Option Box)
    (passed : Prop) : Prop where
  consistent : document.formatter.timers.Consistent
  field : ∃ field, document.results.field? id = some field ∧ original.Derives field ∧ field.box = box ∧
    (passed → document.Awaited id hash field)

variable (id : FieldId) (original : Field) (hash : String) (box : Option Box)

theorem pass_formatting (document : Document) (passed : Prop) (bears : original.kind.bearsHash)
    (full : Hash.isFull hash) (made : original.value = some hash)
    (formatting : document.Formatting id original hash box passed) (now : Time) (scope : Option ContainerId) :
    (document.perform (.pass now scope)).Formatting id original hash box
      (passed ∨ Event.PassesOver id (.pass now scope)) := by
  obtain ⟨consistent, field, found, derives, drawn, awaited⟩ := formatting
  have hashed : field.hash? = some hash := (Field.derives_hash original field derives hash).mpr ⟨made, full⟩
  have fieldBears : field.kind.bearsHash := derives.kind ▸ bears
  have effect := run_pass_field document.formatter document.results now scope id
  rw [found, Option.map_some] at effect
  have kept := visits_keep_entries now (document.results.hashFields scope) ⟨document.formatter, document.results, 0⟩
  refine ⟨perform_consistent document consistent (.pass now scope), ?_⟩
  by_cases visited : id ∈ document.results.hashFields scope
  · rw [if_pos visited] at effect
    refine ⟨field.inFull, effect, Field.derives_in_full original field derives bears,
      (Field.in_full_box field).trans drawn, fun _ => .inl ⟨?_, Field.in_full_restored field hash hashed⟩⟩
    refine visits_measure now _ ⟨document.formatter, document.results, 0⟩ id hash visited ?_
    simpa [found] using hashed
  · rw [if_neg visited] at effect
    refine ⟨field, effect, derives, drawn, ?_⟩
    rintro (before | covers)
    · rcases awaited before with ⟨⟨entry, member, task⟩, restored⟩ | shown
      · exact .inl ⟨⟨entry, kept entry member, task⟩, restored⟩
      · exact .inr shown
    · exact absurd (Results.found_hash_field document.results scope id field found fieldBears covers) visited

-- A measurement of another field may be under way; it takes no other measurement out of the queue.
theorem measure_formatting (document : Document) (passed : Prop) (full : Hash.isFull hash)
    (made : original.value = some hash) (formatting : document.Formatting id original hash box passed) (now : Time)
    (timer : TimerId) : (document.perform (.measure now timer)).Formatting id original hash box passed := by
  cases pending : document.measurement? timer with
  | none =>
      rw [perform, pending]
      exact formatting
  | some pair =>
      obtain ⟨due, place⟩ := pair
      obtain ⟨member, number, task⟩ := measurement_found document timer due place pending
      obtain ⟨consistent, field, found, derives, drawn, awaited⟩ := formatting
      let ground : Formatter := { document.formatter with timers := (document.formatter.timers.cancel timer).1 }
      have performed : document.perform (.measure now timer) =
          { document with
            formatter := (ground.handle document.results now due).1
            results := (ground.handle document.results now due).2 } := by
        rw [perform, pending]
      obtain ⟨timers, results⟩ := handle_measure ground document.results now due place task
      have effect := measure_field document.results place id
      rw [found, Option.map_some] at effect
      have left : ∀ entry ∈ document.formatter.timers.entries, entry.id ≠ timer → entry ∈ ground.timers.entries := by
        intro entry waiting other
        rw [(Timer.cancel_entries _ consistent timer).1]
        exact List.mem_filter.mpr ⟨waiting, by simpa using other⟩
      refine ⟨perform_consistent document consistent (.measure now timer), ?_⟩
      rw [performed]
      by_cases here : id = place
      · rw [if_pos here] at effect
        have hashed := (Field.derives_hash original field derives hash).mpr ⟨made, full⟩
        refine ⟨field.measured, results.symm ▸ effect, Field.derives_measured original field derives,
          (Field.measured_box field).trans drawn, fun before => .inr ?_⟩
        rcases awaited before with ⟨_, restored⟩ | shown
        · exact Field.restored_measured field hash restored
        · exact Field.shown_measured field hash (Field.derives_coherent original field derives) hashed shown
      · rw [if_neg here] at effect
        refine ⟨field, results.symm ▸ effect, derives, drawn, fun before => ?_⟩
        rcases awaited before with ⟨⟨entry, waiting, measures⟩, restored⟩ | shown
        · have other : entry.id ≠ timer := by
            intro same
            have one := Timer.same_entry _ consistent entry due waiting member (same.trans number.symm)
            rw [one, task] at measures
            exact here (Task.measure.inj measures).symm
          exact .inl ⟨⟨entry, timers.symm ▸ left entry waiting other, measures⟩, restored⟩
        · exact .inr shown

theorem box_formatting (document : Document) (passed : Prop)
    (formatting : document.Formatting id original hash box passed) (other : FieldId) (apart : id ≠ other)
    (drawn : Box) : (document.perform (.setBox other drawn)).Formatting id original hash box passed := by
  obtain ⟨consistent, field, found, facts⟩ := formatting
  refine ⟨consistent, field, ?_, facts⟩
  rw [← found]
  exact Results.field_update_other _ _ _ _ apart

theorem event_formatting (document : Document) (passed : Prop) (bears : original.kind.bearsHash)
    (full : Hash.isFull hash) (made : original.value = some hash)
    (formatting : document.Formatting id original hash box passed) (event : Event)
    (fixed : ∀ drawn, event ≠ .setBox id drawn) :
    (document.perform event).Formatting id original hash box (passed ∨ event.PassesOver id) := by
  cases event with
  | pass now scope => exact pass_formatting id original hash box document passed bears full made formatting now scope
  | measure now timer =>
      have unpassed : (passed ∨ Event.PassesOver id (.measure now timer)) = passed := by simp [Event.PassesOver]
      rw [unpassed]
      exact measure_formatting id original hash box document passed full made formatting now timer
  | setBox other drawn =>
      have unpassed : (passed ∨ Event.PassesOver id (.setBox other drawn)) = passed := by simp [Event.PassesOver]
      rw [unpassed]
      refine box_formatting id original hash box document passed formatting other ?_ drawn
      rintro rfl
      exact fixed drawn rfl

theorem events_formatting (document : Document) (passed : Prop) (bears : original.kind.bearsHash)
    (full : Hash.isFull hash) (made : original.value = some hash)
    (formatting : document.Formatting id original hash box passed) (events : List Event)
    (fixed : ∀ drawn, .setBox id drawn ∉ events) :
    (events.foldl perform document).Formatting id original hash box
      (passed ∨ ∃ event ∈ events, event.PassesOver id) := by
  induction events generalizing document passed with
  | nil => simpa using formatting
  | cons event rest ih =>
      have step := event_formatting id original hash box document passed bears full made formatting event
        fun drawn same => fixed drawn (same ▸ List.mem_cons_self)
      have later := ih (document.perform event) _ step fun drawn member => fixed drawn (List.mem_cons_of_mem _ member)
      simpa [or_assoc] using later

-- A field on display that was made with a full hash, and its box.
def Displays (document : Document) : Prop :=
  ∃ shown ∈ document.results.containers, shown.id = id.container ∧
    ∃ field, shown.fields[id.index]? = some field ∧ field.kind ≠ .plain ∧ field.box = box ∧
      ∃ made ∈ document.made, made.id = id.container ∧
        ∃ original, made.fields[id.index]? = some original ∧ original.value = some hash ∧ hash.length = 64

theorem bears_unless_plain (kind : FieldKind) (other : kind ≠ .plain) : kind.bearsHash := by
  cases kind with
  | plain => exact absurd rfl other
  | _ => rfl

theorem displays_formatting (document : Document) (sound : document.Sound)
    (consistent : document.formatter.timers.Consistent)
    (distinct : (document.results.containers.map Container.id).Nodup) (displays : document.Displays id hash box) :
    ∃ original : Field, original.kind.bearsHash ∧ Hash.isFull hash ∧ original.value = some hash ∧
      document.Formatting id original hash box False := by
  obtain ⟨shown, member, owner, field, access, other, drawn, made, known, maker, original, place, value, long⟩ := displays
  have found : document.results.field? id = some field := by
    have displayed := Results.displayed_field document.results distinct shown member id.index
    rw [owner] at displayed
    exact displayed.trans access
  obtain ⟨origin, listed, named, source, there, derives⟩ :=
    Results.field_origin document.made document.results sound.traces id field found
  have one := Results.origin_unique document.made (sound.numbers ▸ List.nodup_range) origin made listed known
    (named.trans maker.symm)
  subst one
  have same : source = original := Option.some.inj (there.symm.trans place)
  subst same
  refine ⟨source, derives.kind ▸ bears_unless_plain field.kind other, ?_, value, consistent, field, found, derives, drawn,
    False.elim⟩
  simpa [Hash.isFull, Hash.fullLength] using long

theorem display_depends_on_the_box_alone (document : Document) (sound : document.Sound)
    (consistent : document.formatter.timers.Consistent)
    (distinct : (document.results.containers.map Container.id).Nodup) (displays : document.Displays id hash box)
    (events : List Event) (fixed : ∀ drawn, .setBox id drawn ∉ events) (passed : ∃ event ∈ events, event.PassesOver id)
    (settled : ¬ Measures (events.foldl perform document).formatter.timers.entries id) :
    ∃ field, (events.foldl perform document).results.field? id = some field ∧ field.box = box ∧
      field.value = some (Hash.shownIn hash box) := by
  obtain ⟨original, bears, full, made, formatting⟩ :=
    displays_formatting id hash box document sound consistent distinct displays
  obtain ⟨_, field, found, _, drawn, awaited⟩ :=
    events_formatting id original hash box document False bears full made formatting events fixed
  refine ⟨field, found, drawn, ?_⟩
  rcases awaited (.inr passed) with ⟨pending, _⟩ | shown
  · exact absurd pending settled
  · rw [shown, drawn]

def sample : String := "00000000000000000024fb37364cbf81fd49cc2d51c09c75c35433c3a1945d04"

def displayed (document : Document) : Option String := (document.results.field? ⟨0, 0⟩).bind Field.value

-- A hash that has been passed over and measured in one box and is then drawn in another. Nothing is pending for it.
def redrawn (first second : Box) : Document :=
  [Event.setBox ⟨0, 0⟩ first, .pass 0 none, .measure 1 0, .setBox ⟨0, 0⟩ second].foldl perform
    (run 200 [.create "Block" [("Hash", .hash, some sample)], .push (.made 0)])

theorem redrawn_ready (first second : Box) :
    (redrawn first second).Sound ∧ (redrawn first second).formatter.timers.Consistent :=
  performs_ready _ _ (steps_sound _ (start_sound 200) _) (run_consistent 200 _)

theorem redrawn_displays (first second : Box) (shown : Field) (other : shown.kind ≠ .plain)
    (drawn : shown.box = some second) (placed : (redrawn first second).results.containers = [⟨0, "Block", [shown]⟩]) :
    (redrawn first second).Displays ⟨0, 0⟩ sample (some second) := by
  have made : (redrawn first second).made = [⟨0, "Block", [⟨"Hash", .hash, some sample, none, none⟩]⟩] := by
    rw [redrawn, performs_made]
    rfl
  refine ⟨_, placed ▸ List.mem_singleton.mpr rfl, rfl, shown, rfl, other, drawn, ?_⟩
  exact ⟨_, made ▸ List.mem_singleton.mpr rfl, rfl, _, rfl, rfl, by decide +kernel⟩

-- Three passes overlap, and their measurements come in another order.
def tangled : List Event :=
  [.pass 5 none, .pass 6 (some 0), .measure 7 2, .pass 8 none, .measure 9 1, .measure 9 3]

-- Growing the box brings the whole hash back, shrinking it abbreviates the hash.
theorem tangled_passes_settle :
    let narrow : Box := ⟨30, 1⟩
    let wide : Box := ⟨64, 1⟩
    (displayed (redrawn narrow wide) = some (Hash.abbreviate sample) ∧
        displayed (tangled.foldl perform (redrawn narrow wide)) = some sample) ∧
      displayed (redrawn wide narrow) = some sample ∧
        displayed (tangled.foldl perform (redrawn wide narrow)) = some (Hash.abbreviate sample) := by
  intro narrow wide
  have fixed : ∀ drawn, Event.setBox ⟨0, 0⟩ drawn ∉ tangled := by
    intro drawn member
    simp [tangled] at member
  have passed : ∃ event ∈ tangled, event.PassesOver ⟨0, 0⟩ := ⟨_, List.mem_cons_self, .inl rfl⟩
  have grown : (redrawn narrow wide).results.containers =
      [⟨0, "Block", [⟨"Hash", .hash, some (Hash.abbreviate sample), some sample, some wide⟩]⟩] := by decide +kernel
  have shrunk : (redrawn wide narrow).results.containers =
      [⟨0, "Block", [⟨"Hash", .hash, some sample, some sample, some narrow⟩]⟩] := by decide +kernel
  obtain ⟨soundGrown, consistentGrown⟩ := redrawn_ready narrow wide
  have displaysGrown := redrawn_displays narrow wide _ (by decide) rfl grown
  obtain ⟨field, found, _, full⟩ := display_depends_on_the_box_alone ⟨0, 0⟩ sample (some wide) (redrawn narrow wide)
    soundGrown consistentGrown (by rw [grown]; decide) displaysGrown tangled fixed passed
    (by unfold Measures; decide +kernel)
  obtain ⟨soundShrunk, consistentShrunk⟩ := redrawn_ready wide narrow
  have displaysShrunk := redrawn_displays wide narrow _ (by decide) rfl shrunk
  obtain ⟨other, there, _, abbreviated⟩ := display_depends_on_the_box_alone ⟨0, 0⟩ sample (some narrow)
    (redrawn wide narrow) soundShrunk consistentShrunk (by rw [shrunk]; decide) displaysShrunk tangled fixed passed
    (by unfold Measures; decide +kernel)
  refine ⟨⟨?_, ?_⟩, ?_, ?_⟩
  · rw [displayed, Results.field?, Results.container?, grown]
    rfl
  · rw [displayed, found, Option.bind_some, full]
    decide +kernel
  · rw [displayed, Results.field?, Results.container?, shrunk]
    rfl
  · rw [displayed, there, Option.bind_some, abbreviated]
    decide +kernel

end Document
end Formatter
end ChainExplorer
