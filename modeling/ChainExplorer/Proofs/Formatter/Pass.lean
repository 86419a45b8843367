import ChainExplorer.Formatter
import ChainExplorer.Proofs.Results.Origin
import ChainExplorer.Proofs.Timer.Order

set_option autoImplicit false

namespace ChainExplorer

namespace Field

-- What a visit makes of a field.
def inFull (field : Field) : Field :=
  match field.hash? with
  | none => field
  | some hash => field.reset hash

theorem in_full_unhashed (field : Field) (none : field.hash? = none) : field.inFull = field := by
  unfold inFull
  rw [none]

theorem in_full_hashed (field : Field) (hash : String) (found : field.hash? = some hash) :
    field.inFull = field.reset hash := by
  unfold inFull
  rw [found]

theorem reset_hash (field : Field) (hash : String) (full : Hash.isFull hash) :
    (field.reset hash).hash? = some hash :=
  (hash_judged _ hash).mpr ⟨judged_remembered _ hash rfl full, full⟩

theorem in_full_hash (field : Field) : field.inFull.hash? = field.hash? := by
  cases found : field.hash? with
  | none => rw [in_full_unhashed field found, found]
  | some hash =>
      rw [in_full_hashed field hash found]
      exact reset_hash field hash ((hash_judged field hash).mp found).2

theorem in_full_twice (field : Field) : field.inFull.inFull = field.inFull := by
  cases found : field.hash? with
  | none => rw [in_full_unhashed field found, in_full_unhashed field found]
  | some hash =>
      rw [in_full_hashed field hash found, in_full_hashed (field.reset hash) hash]
      · rfl
      · rw [← in_full_hashed field hash found, in_full_hash, found]

end Field

namespace Formatter

theorem visit_skips (now : Time) (pass : Pass) (id : FieldId)
    (absent : (pass.results.field? id).bind Field.hash? = none) : pass.visit now id = pass := by
  unfold Pass.visit
  rw [absent]

theorem visit_resets (now : Time) (pass : Pass) (id : FieldId) (hash : String)
    (found : (pass.results.field? id).bind Field.hash? = some hash) :
    pass.visit now id =
      { formatter := (pass.formatter.own now 0 (.measure id)).1
        results := pass.results.update id (·.reset hash)
        count := pass.count + 1 } := by
  unfold Pass.visit
  rw [found]

theorem visit_field (now : Time) (pass : Pass) (id other : FieldId) :
    (pass.visit now id).results.field? other =
      (pass.results.field? other).map fun field => if other = id then field.inFull else field := by
  cases found : (pass.results.field? id).bind Field.hash? with
  | none =>
      rw [visit_skips now pass id found]
      by_cases same : other = id
      · subst same
        cases here : pass.results.field? other with
        | none => rfl
        | some field =>
            rw [here, Option.bind_some] at found
            simp [Field.in_full_unhashed field found]
      · simp [same]
  | some hash =>
      rw [visit_resets now pass id hash found]
      by_cases same : other = id
      · subst same
        obtain ⟨field, here, judged⟩ := Option.bind_eq_some_iff.mp found
        rw [Results.field_update_same, here]
        simp [Field.in_full_hashed field hash judged]
      · rw [Results.field_update_other _ _ _ _ same]
        simp [same]

theorem visit_retexts (now : Time) (pass : Pass) (id : FieldId) :
    Results.Retexts pass.results (pass.visit now id).results := by
  cases found : (pass.results.field? id).bind Field.hash? with
  | none =>
      rw [visit_skips now pass id found]
      exact Results.retexts_refl pass.results
  | some hash =>
      rw [visit_resets now pass id hash found]
      exact Results.update_retexts pass.results id _ fun field => ⟨rfl, rfl, rfl⟩

theorem visits_retexts (now : Time) (ids : List FieldId) (pass : Pass) :
    Results.Retexts pass.results (ids.foldl (Pass.visit now) pass).results := by
  refine List.foldlRecOn (motive := fun after : Pass => Results.Retexts pass.results after.results) ids _
    (Results.retexts_refl pass.results) ?_
  intro after before id _
  exact Results.retexts_trans _ _ _ before (visit_retexts now after id)

theorem visits_field (now : Time) (ids : List FieldId) (pass : Pass) (other : FieldId) :
    (ids.foldl (Pass.visit now) pass).results.field? other =
      (pass.results.field? other).map fun field => if other ∈ ids then field.inFull else field := by
  induction ids generalizing pass with
  | nil => simp
  | cons id rest ih =>
      rw [List.foldl_cons, ih, visit_field, Option.map_map]
      congr 1
      funext field
      by_cases here : other = id
      · by_cases later : other ∈ rest <;> simp [← here, later, Field.in_full_twice]
      · simp [here]

theorem run_pass_retexts (formatter : Formatter) (results : Results) (now : Time) (scope : Option ContainerId) :
    Results.Retexts results (formatter.runPass results now scope).results :=
  visits_retexts now _ ⟨formatter, results, 0⟩

-- The effect of a whole pass on one field.
theorem run_pass_field (formatter : Formatter) (results : Results) (now : Time) (scope : Option ContainerId)
    (id : FieldId) :
    (formatter.runPass results now scope).results.field? id =
      (results.field? id).map fun field => if id ∈ results.hashFields scope then field.inFull else field :=
  visits_field now _ _ id

theorem mem_own (formatter : Formatter) (now delay : Time) (task : Task) (entry : Timer.Entry Task) :
    entry ∈ (formatter.own now delay task).1.timers.entries ↔
      entry = ⟨now + delay, formatter.timers.nextId, task⟩ ∨ entry ∈ formatter.timers.entries :=
  Timer.mem_schedule _ _ _ _ _

theorem visit_keeps_entries (now : Time) (pass : Pass) (id : FieldId) (entry : Timer.Entry Task)
    (member : entry ∈ pass.formatter.timers.entries) : entry ∈ (pass.visit now id).formatter.timers.entries := by
  cases found : (pass.results.field? id).bind Field.hash? with
  | none => rwa [visit_skips now pass id found]
  | some hash =>
      rw [visit_resets now pass id hash found]
      exact (mem_own _ now 0 _ entry).mpr (.inr member)

theorem visit_new_entries (now : Time) (pass : Pass) (id : FieldId) (entry : Timer.Entry Task)
    (member : entry ∈ (pass.visit now id).formatter.timers.entries) :
    entry ∈ pass.formatter.timers.entries ∨ (entry.deadline = now ∧ entry.task = .measure id) := by
  cases found : (pass.results.field? id).bind Field.hash? with
  | none => exact .inl (by rwa [visit_skips now pass id found] at member)
  | some hash =>
      rw [visit_resets now pass id hash found] at member
      rcases (mem_own _ now 0 _ entry).mp member with new | old
      · exact .inr (by simp [new])
      · exact .inl old

theorem visit_ordered (now : Time) (pass : Pass) (id : FieldId) (ordered : pass.formatter.timers.Ordered) :
    (pass.visit now id).formatter.timers.Ordered := by
  cases found : (pass.results.field? id).bind Field.hash? with
  | none => rwa [visit_skips now pass id found]
  | some hash =>
      rw [visit_resets now pass id hash found]
      exact Timer.schedule_ordered _ _ _ _ ordered

theorem visits_keep_entries (now : Time) (ids : List FieldId) (pass : Pass) (entry : Timer.Entry Task)
    (member : entry ∈ pass.formatter.timers.entries) :
    entry ∈ (ids.foldl (Pass.visit now) pass).formatter.timers.entries := by
  refine List.foldlRecOn (motive := fun after : Pass => entry ∈ after.formatter.timers.entries) ids _ member ?_
  intro after queued id _
  exact visit_keeps_entries now after id entry queued

theorem visits_new_entries (now : Time) (ids : List FieldId) (pass : Pass) (entry : Timer.Entry Task)
    (member : entry ∈ (ids.foldl (Pass.visit now) pass).formatter.timers.entries) :
    entry ∈ pass.formatter.timers.entries ∨ (entry.deadline = now ∧ ∃ id ∈ ids, entry.task = .measure id) := by
  refine List.foldlRecOn (motive := fun after : Pass => entry ∈ after.formatter.timers.entries →
    entry ∈ pass.formatter.timers.entries ∨ (entry.deadline = now ∧ ∃ id ∈ ids, entry.task = .measure id))
    ids _ .inl ?_ member
  intro after known id visited queued
  rcases visit_new_entries now after id entry queued with old | ⟨time, task⟩
  · exact known old
  · exact .inr ⟨time, id, visited, task⟩

theorem visits_ordered (now : Time) (ids : List FieldId) (pass : Pass)
    (ordered : pass.formatter.timers.Ordered) :
    (ids.foldl (Pass.visit now) pass).formatter.timers.Ordered := by
  refine List.foldlRecOn (motive := fun after : Pass => after.formatter.timers.Ordered) ids _ ordered ?_
  intro after before id _
  exact visit_ordered now after id before

-- Visits before this one leave the hash of a field as it is, so it is found whatever came first.
theorem visits_measure (now : Time) (ids : List FieldId) (pass : Pass) (id : FieldId) (hash : String)
    (member : id ∈ ids) (found : (pass.results.field? id).bind Field.hash? = some hash) :
    ∃ entry ∈ (ids.foldl (Pass.visit now) pass).formatter.timers.entries, entry.task = .measure id := by
  induction ids generalizing pass with
  | nil => simp at member
  | cons head rest ih =>
      by_cases here : id = head
      · subst here
        refine ⟨⟨now + 0, pass.formatter.timers.nextId, .measure id⟩, ?_, rfl⟩
        refine visits_keep_entries now rest (pass.visit now id) _ ?_
        rw [visit_resets now pass id hash found]
        exact (mem_own _ now 0 _ _).mpr (.inl rfl)
      · have later : id ∈ rest := by simpa [here] using member
        refine ih (pass.visit now head) later ?_
        rw [visit_field]
        simpa [here] using found

theorem measure_retexts (results : Results) (id : FieldId) : Results.Retexts results (measure results id).1 := by
  unfold measure
  cases (results.field? id).bind Field.overflowingHash? with
  | none => exact Results.retexts_refl results
  | some hash => exact Results.update_retexts results id _ fun field => ⟨rfl, rfl, rfl⟩

theorem handle_retexts (formatter : Formatter) (results : Results) (now : Time) (due : Timer.Entry Task) :
    Results.Retexts results (formatter.handle results now due).2 := by
  unfold handle
  cases due.task with
  | globalPass => exact run_pass_retexts _ results now none
  | containerPass container => exact run_pass_retexts _ results now (some container)
  | measure field => exact measure_retexts results field

end Formatter
end ChainExplorer
