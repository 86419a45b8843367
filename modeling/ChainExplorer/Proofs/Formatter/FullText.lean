import ChainExplorer.Proofs.Formatter.Pass
import ChainExplorer.Screen.ResultsPane

set_option autoImplicit false

namespace ChainExplorer

namespace Formatter

theorem traces_visit (made : List Container) (distinct : (made.map Container.id).Nodup) (now : Time) (pass : Pass)
    (id : FieldId) (place : Results.HashPlace made id) (traces : Results.Traces made pass.results) :
    Results.Traces made (pass.visit now id).results := by
  cases found : (pass.results.field? id).bind Field.hash? with
  | none => rwa [visit_skips now pass id found]
  | some hash =>
      rw [visit_resets now pass id hash found]
      refine Results.traces_update made pass.results id _ traces ?_
      intro origin field original here known owner access derives
      have judged : field.hash? = some hash := by simpa [here] using found
      exact Field.derives_reset original field derives
        (Results.hash_place_bears made distinct id place origin known owner original access) hash judged

theorem traces_visits (made : List Container) (distinct : (made.map Container.id).Nodup) (now : Time)
    (ids : List FieldId) (pass : Pass) (places : ∀ id ∈ ids, Results.HashPlace made id)
    (traces : Results.Traces made pass.results) :
    Results.Traces made (ids.foldl (Pass.visit now) pass).results := by
  refine List.foldlRecOn (motive := fun after : Pass => Results.Traces made after.results) ids _ traces ?_
  intro after before id visited
  exact traces_visit made distinct now after id (places id visited) before

-- The addresses are collected before the pass changes anything, which is why they are judged by the log.
theorem traces_run_pass (made : List Container) (distinct : (made.map Container.id).Nodup) (formatter : Formatter)
    (results : Results) (now : Time) (scope : Option ContainerId) (traces : Results.Traces made results) :
    Results.Traces made (formatter.runPass results now scope).results :=
  traces_visits made distinct now _ _ (Results.hash_fields_places made results traces scope) traces

theorem traces_measure (made : List Container) (results : Results) (id : FieldId)
    (traces : Results.Traces made results) : Results.Traces made (measure results id).1 := by
  unfold measure
  cases found : (results.field? id).bind Field.overflowingHash? with
  | none => exact traces
  | some hash =>
      refine Results.traces_update made results id _ traces ?_
      intro origin field original here _ _ _ derives
      have judged : field.overflowingHash? = some hash := by simpa [here] using found
      exact Field.derives_abbreviated original field derives hash judged

theorem traces_handle (made : List Container) (distinct : (made.map Container.id).Nodup) (formatter : Formatter)
    (results : Results) (now : Time) (due : Timer.Entry Task) (traces : Results.Traces made results) :
    Results.Traces made (formatter.handle results now due).2 := by
  unfold handle
  cases due.task with
  | globalPass => exact traces_run_pass made distinct _ results now none traces
  | containerPass container => exact traces_run_pass made distinct _ results now (some container) traces
  | measure field => exact traces_measure made results field traces

end Formatter

namespace Results

theorem traces_boxed (made : List Container) (results : Results) (box : Box) (traces : Traces made results) :
    Traces made (Screen.ResultsPane.record results box) := by
  intro shown member
  obtain ⟨container, here, same⟩ := List.mem_map.mp member
  obtain ⟨origin, known, derives⟩ := traces container here
  subst same
  refine ⟨origin, known, derives.id, derives.title, ?_⟩
  exact List.forall₂_map_right_iff.mpr
    (derives.fields.imp fun original field related => Field.derives_boxed original field related box)

theorem traces_drawn (made : List Container) (results : Results) (width height : Nat)
    (traces : Traces made results) : Traces made (Screen.ResultsPane.drawn results width height) := by
  unfold Screen.ResultsPane.drawn
  split
  · exact traces
  · exact traces_boxed made results _ traces

end Results

-- A results area by itself: with its formatter, and with the containers that were made for it, each as it
-- was made.
structure Formatter.Document where
  results : Results
  formatter : Formatter
  made : List Container

namespace Formatter.Document

-- A container to show: one that was made, or one that is on display, copied as it is now.
inductive Source where
  | made (id : ContainerId)
  | shown (id : ContainerId)

inductive Step where
  | create (title : String) (fields : List (String × FieldKind × Option String))
  | push (source : Source)
  | replace (source : Source)
  | clear
  | setBox (id : FieldId) (box : Box)
  | draw (width height : Nat)
  | request (now : Time) (scope : Option ContainerId)
  -- Any task under any number: the order in which a queue would give them out does not matter.
  | handle (now : Time) (due : Timer.Entry Formatter.Task)

def container? (document : Document) : Source → Option Container
  | .made id => document.made.find? fun container => container.id == id
  | .shown id => document.results.container? id

def step (document : Document) : Step → Document
  | .create title fields =>
      let (results, container) := document.results.create title
        (fields.map fun (label, kind, value) => { label, kind, value })
      { document with results, made := document.made ++ [container] }
  | .push source =>
      match document.container? source with
      | none => document
      | some container => { document with results := document.results.push container }
  | .replace source =>
      match document.container? source with
      | none => document
      | some container => { document with results := document.results.replace container }
  | .clear => { document with results := document.results.clear }
  | .setBox id box => { document with results := document.results.update id (·.setBox box) }
  | .draw width height => { document with results := Screen.ResultsPane.drawn document.results width height }
  | .request now scope => { document with formatter := (document.formatter.request now scope).1 }
  | .handle now due =>
      let (formatter, results) := document.formatter.handle document.results now due
      { document with formatter, results }

def start (settleDelay : Time) : Document := ⟨.empty, .withDelay settleDelay, []⟩

def run (settleDelay : Time) (steps : List Step) : Document := steps.foldl step (start settleDelay)

structure Sound (document : Document) : Prop where
  traces : Results.Traces document.made document.results
  untouched : ∀ container ∈ document.made, container.Untouched
  numbers : document.made.map Container.id = List.range document.results.nextId

theorem start_sound (settleDelay : Time) : (start settleDelay).Sound :=
  ⟨fun _ member => (nomatch member), fun _ member => (nomatch member), rfl⟩

theorem source_origin (document : Document) (sound : document.Sound) (source : Source) (container : Container)
    (found : document.container? source = some container) : ∃ origin ∈ document.made, origin.Derives container := by
  cases source with
  | made id =>
      have known := List.mem_of_find?_eq_some found
      exact ⟨container, known, Container.derives_untouched container (sound.untouched container known)⟩
  | shown id => exact sound.traces container (Results.container_found document.results id container found).1

theorem step_sound (document : Document) (sound : document.Sound) (step : Step) : (document.step step).Sound := by
  have distinct : (document.made.map Container.id).Nodup := sound.numbers ▸ List.nodup_range
  cases step with
  | create title fields =>
      refine ⟨Results.traces_longer _ _ _ sound.traces, ?_, ?_⟩
      · intro container member
        rcases List.mem_append.mp member with before | added
        · exact sound.untouched container before
        · intro field here
          rw [List.mem_singleton.mp added] at here
          obtain ⟨⟨label, kind, value⟩, _, same⟩ := List.mem_map.mp here
          subst same
          exact ⟨rfl, rfl⟩
      · simp [Document.step, Results.create, List.range_succ, sound.numbers]
  | push source =>
      dsimp only [Document.step]
      cases found : document.container? source with
      | none => exact sound
      | some container =>
          have origin := source_origin document sound source container found
          exact ⟨Results.traces_push _ _ _ sound.traces origin, sound.untouched, sound.numbers⟩
  | replace source =>
      dsimp only [Document.step]
      cases found : document.container? source with
      | none => exact sound
      | some container =>
          have origin := source_origin document sound source container found
          exact ⟨Results.traces_replace _ _ _ origin, sound.untouched, sound.numbers⟩
  | clear => exact ⟨Results.traces_clear _ _, sound.untouched, sound.numbers⟩
  | setBox id box =>
      refine ⟨Results.traces_update _ _ _ _ sound.traces ?_, sound.untouched, sound.numbers⟩
      intro _ field original _ _ _ _ derives
      exact Field.derives_boxed original field derives box
  | draw width height =>
      refine ⟨Results.traces_drawn _ _ width height sound.traces, sound.untouched, ?_⟩
      dsimp only [Document.step, Screen.ResultsPane.drawn]
      split <;> exact sound.numbers
  | request now scope => exact ⟨sound.traces, sound.untouched, sound.numbers⟩
  | handle now due =>
      refine ⟨Formatter.traces_handle _ distinct _ _ now due sound.traces, sound.untouched, ?_⟩
      have same := (Formatter.handle_retexts document.formatter document.results now due).nextId
      exact sound.numbers.trans (congrArg List.range same.symm)

theorem steps_sound (document : Document) (sound : document.Sound) (steps : List Step) :
    (steps.foldl step document).Sound := by
  induction steps generalizing document with
  | nil => exact sound
  | cons head rest ih => exact ih (document.step head) (step_sound document sound head)

-- What may become of a field: nothing, unless it shows a hash of full length. Such a hash is on display,
-- or it is remembered and on display in full or abbreviated.
structure KeepsText (made field : Field) : Prop where
  label : field.label = made.label
  kind : field.kind = made.kind
  other : (made.kind = .plain ∨ ∀ text, made.value = some text → text.length ≠ 64) →
    field.value = made.value ∧ field.fullHash = none
  hash : ∀ text, made.kind ≠ .plain → made.value = some text → text.length = 64 →
    (field.fullHash = none ∧ field.value = some text) ∨
      (field.fullHash = some text ∧ (field.value = some text ∨ field.value = some (Hash.abbreviate text)))

theorem derives_keeps_text (made field : Field) (derives : made.Derives field) : KeepsText made field := by
  refine ⟨derives.label, derives.kind, ?_, ?_⟩
  · intro unformatted
    rcases derives.text with ⟨forgotten, value⟩ | ⟨text, bears, full, origin, _, _⟩
    · exact ⟨value, forgotten⟩
    · exfalso
      rcases unformatted with plain | other
      · rw [plain] at bears
        cases bears
      · exact other text origin (by simpa [Hash.isFull, Hash.fullLength] using full)
  · intro text _ value _
    rcases derives.text with ⟨forgotten, same⟩ | ⟨hash, _, _, origin, remembered, display⟩
    · exact .inl ⟨forgotten, same.trans value⟩
    · have same : hash = text := Option.some.inj (origin.symm.trans value)
      exact .inr (same ▸ ⟨remembered, display⟩)

theorem fields_keep_their_text (settleDelay : Time) (steps : List Step) :
    ((run settleDelay steps).made.map Container.id).Nodup ∧
      (∀ made ∈ (run settleDelay steps).made, made.Untouched) ∧
      ∀ shown ∈ (run settleDelay steps).results.containers, ∃ made ∈ (run settleDelay steps).made,
        made.id = shown.id ∧ made.title = shown.title ∧ List.Forall₂ KeepsText made.fields shown.fields := by
  have sound := steps_sound _ (start_sound settleDelay) steps
  refine ⟨sound.numbers ▸ List.nodup_range, sound.untouched, ?_⟩
  intro shown member
  obtain ⟨made, known, derives⟩ := sound.traces shown member
  exact ⟨made, known, derives.id.symm, derives.title.symm, derives.fields.imp derives_keeps_text⟩

end Formatter.Document
end ChainExplorer
