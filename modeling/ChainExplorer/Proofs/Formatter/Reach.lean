import ChainExplorer.Proofs.Formatter.Handling

set_option autoImplicit false

namespace ChainExplorer

-- A container in which no other fields have changed than those that may be reached.
structure Container.Amends (reached : FieldId → Field → Prop) (before after : Container) : Prop where
  id : after.id = before.id
  title : after.title = before.title
  size : after.fields.length = before.fields.length
  others : ∀ (index : Nat) (field : Field), before.fields[index]? = some field → ¬ reached ⟨before.id, index⟩ field →
    after.fields[index]? = some field

namespace Results

structure Amends (reached : FieldId → Field → Prop) (before after : Results) : Prop where
  nextId : after.nextId = before.nextId
  scroll : after.scroll = before.scroll
  containers : List.Forall₂ (Container.Amends reached) before.containers after.containers

variable (reached : FieldId → Field → Prop)

theorem container_amends_refl (container : Container) : container.Amends reached container :=
  ⟨rfl, rfl, rfl, fun _ _ access _ => access⟩

theorem amends_refl (results : Results) : results.Amends reached results :=
  ⟨rfl, rfl, List.forall₂_same.mpr fun container _ => container_amends_refl reached container⟩

theorem containers_amend_trans (first second third : List Container)
    (before : List.Forall₂ (Container.Amends reached) first second)
    (after : List.Forall₂ (Container.Amends reached) second third) :
    List.Forall₂ (Container.Amends reached) first third := by
  induction before generalizing third with
  | nil => exact after
  | cons head _ ih =>
      cases after with
      | cons next rest =>
          refine .cons ⟨next.id.trans head.id, next.title.trans head.title, next.size.trans head.size, ?_⟩ (ih _ rest)
          intro index field access apart
          exact next.others index field (head.others index field access apart) (head.id ▸ apart)

theorem amends_trans (first second third : Results) (before : first.Amends reached second)
    (after : second.Amends reached third) : first.Amends reached third :=
  ⟨after.nextId.trans before.nextId, after.scroll.trans before.scroll,
    containers_amend_trans reached _ _ _ before.containers after.containers⟩

-- It is enough to judge the fields that were there.
theorem containers_amend_among (wider : FieldId → Field → Prop) (before after : List Container)
    (amends : List.Forall₂ (Container.Amends reached) before after)
    (within : ∀ container ∈ before, ∀ (index : Nat) (field : Field), container.fields[index]? = some field →
      reached ⟨container.id, index⟩ field → wider ⟨container.id, index⟩ field) :
    List.Forall₂ (Container.Amends wider) before after := by
  induction amends with
  | nil => exact .nil
  | cons head _ ih =>
      obtain ⟨first, rest⟩ := List.forall_mem_cons.mp within
      refine .cons ⟨head.id, head.title, head.size, ?_⟩ (ih rest)
      exact fun index field access apart => head.others index field access fun here => apart (first index field access here)

theorem amends_among (wider : FieldId → Field → Prop) (before after : Results) (amends : before.Amends reached after)
    (within : ∀ container ∈ before.containers, ∀ (index : Nat) (field : Field), container.fields[index]? = some field →
      reached ⟨container.id, index⟩ field → wider ⟨container.id, index⟩ field) : before.Amends wider after :=
  ⟨amends.nextId, amends.scroll, containers_amend_among reached wider _ _ amends.containers within⟩

-- A container of which nothing can be reached is what it was.
theorem amends_untouched (before after : Results) (amends : before.Amends reached after) (place : Nat)
    (container : Container) (shown : before.containers[place]? = some container)
    (apart : ∀ index field, ¬ reached ⟨container.id, index⟩ field) : after.containers[place]? = some container := by
  obtain ⟨inside, here⟩ := List.getElem?_eq_some_iff.mp shown
  have length := amends.containers.length_eq
  have there : place < after.containers.length := length ▸ inside
  have related := amends.containers.get inside there
  rw [List.get_eq_getElem, List.get_eq_getElem, here] at related
  rw [List.getElem?_eq_getElem there, Option.some.injEq]
  have fields : (after.containers[place]).fields = container.fields := by
    refine List.ext_getElem? fun index => ?_
    cases access : container.fields[index]? with
    | none => rwa [List.getElem?_eq_none_iff, related.size, ← List.getElem?_eq_none_iff]
    | some field => exact related.others index field access (apart index field)
  have number := related.id
  have title := related.title
  revert fields number title
  cases after.containers[place]
  rintro rfl rfl rfl
  rfl

theorem update_in_amends (id : FieldId) (change : Field → Field) (containers : List Container) :
    List.Forall₂ (Container.Amends fun other _ => other = id) containers (updateIn id change containers) := by
  induction containers with
  | nil => exact .nil
  | cons container rest ih =>
      by_cases same : container.id = id.container
      · rw [updateIn, if_pos same]
        refine .cons ⟨rfl, rfl, List.length_modify _ _ _, ?_⟩ (amends_refl _ ⟨rest, 0, 0⟩).containers
        intro index field access apart
        have elsewhere : id.index ≠ index := by
          rintro rfl
          exact apart (by rw [same])
        simp [elsewhere, access]
      · rw [updateIn, if_neg same]
        exact .cons (container_amends_refl _ container) ih

theorem update_amends (results : Results) (id : FieldId) (change : Field → Field) :
    results.Amends (fun other _ => other = id) (results.update id change) :=
  ⟨rfl, rfl, update_in_amends id change results.containers⟩

-- Under numbers that differ, a container on display is the one that its number finds.
theorem displayed_found (results : Results) (distinct : (results.containers.map Container.id).Nodup)
    (container : Container) (shown : container ∈ results.containers) :
    results.container? container.id = some container := by
  unfold container?
  cases found : results.containers.find? fun other => other.id == container.id with
  | none =>
      have absent := List.find?_eq_none.mp found container shown
      exact absurd (beq_self_eq_true container.id) absent
  | some other =>
      have same : other.id = container.id := by simpa using List.find?_some found
      rw [List.inj_on_of_nodup_map distinct (List.mem_of_find?_eq_some found) shown same]

theorem displayed_field (results : Results) (distinct : (results.containers.map Container.id).Nodup)
    (container : Container) (shown : container ∈ results.containers) (index : Nat) :
    results.field? ⟨container.id, index⟩ = container.fields[index]? :=
  field_of_container results ⟨container.id, index⟩ container (displayed_found results distinct container shown)

theorem hash_field_bears (results : Results) (distinct : (results.containers.map Container.id).Nodup)
    (scope : Option ContainerId) (container : Container) (shown : container ∈ results.containers) (index : Nat)
    (field : Field) (access : container.fields[index]? = some field)
    (visited : (⟨container.id, index⟩ : FieldId) ∈ results.hashFields scope) :
    field.kind.bearsHash ∧ (scope = none ∨ scope = some container.id) := by
  obtain ⟨inScope, other, member, same, found, there, bears⟩ := (mem_hash_fields results scope _).mp visited
  obtain rfl := List.inj_on_of_nodup_map distinct member shown same
  obtain rfl := Option.some.inj (there.symm.trans access)
  exact ⟨bears, inScope⟩

end Results

namespace Formatter

-- The field, which is at the given place, is one that the task may change.
def Task.Reaches (task : Task) (id : FieldId) (field : Field) : Prop :=
  field.kind.bearsHash ∧
    match task with
    | .globalPass => True
    | .containerPass container => id.container = container
    | .measure place => id = place

theorem visit_amends (now : Time) (pass : Pass) (id : FieldId) :
    pass.results.Amends (fun other _ => other = id) (pass.visit now id).results := by
  cases found : (pass.results.field? id).bind Field.hash? with
  | none =>
      rw [visit_skips now pass id found]
      exact Results.amends_refl _ pass.results
  | some hash =>
      rw [visit_resets now pass id hash found]
      exact Results.update_amends pass.results id _

theorem visits_amend (now : Time) (ids : List FieldId) (pass : Pass) :
    pass.results.Amends (fun other _ => other ∈ ids) (ids.foldl (Pass.visit now) pass).results := by
  refine List.foldlRecOn (motive := fun after : Pass => pass.results.Amends (fun other _ => other ∈ ids) after.results)
    ids _ (Results.amends_refl _ pass.results) ?_
  intro after before id visited
  refine Results.amends_trans _ _ _ _ before (Results.amends_among _ _ _ _ (visit_amends now after id) ?_)
  rintro container _ index field _ rfl
  exact visited

theorem run_pass_amends (formatter : Formatter) (results : Results)
    (distinct : (results.containers.map Container.id).Nodup) (now : Time) (task : Task) (scope : Option ContainerId)
    (passes : task.scope? = some scope) : results.Amends task.Reaches (formatter.runPass results now scope).results := by
  refine Results.amends_among _ _ _ _ (visits_amend now (results.hashFields scope) ⟨formatter, results, 0⟩) ?_
  intro container shown index field access visited
  obtain ⟨bears, inScope⟩ := Results.hash_field_bears results distinct scope container shown index field access visited
  cases task with
  | globalPass => exact ⟨bears, trivial⟩
  | containerPass number =>
      cases passes
      exact ⟨bears, (Option.some.inj (inScope.resolve_left (by simp))).symm⟩
  | measure place => cases passes

-- A field without a hash has no full text to be abbreviated.
theorem measure_amends (made : List Container) (results : Results) (traces : Results.Traces made results)
    (distinct : (results.containers.map Container.id).Nodup) (id : FieldId) :
    results.Amends (Task.measure id).Reaches (measure results id).1 := by
  unfold measure
  cases overflows : (results.field? id).bind Field.overflowingHash? with
  | none => exact Results.amends_refl _ results
  | some hash =>
      refine Results.amends_among _ _ _ _ (Results.update_amends results id _) ?_
      rintro container shown index field access rfl
      have found := (Results.displayed_field results distinct container shown index).trans access
      rw [found, Option.bind_some] at overflows
      obtain ⟨_, _, _, original, _, derives⟩ := Results.field_origin made results traces _ field found
      have remembered := ((Field.overflowing_hash field hash).mp overflows).2
      rcases derives.text with ⟨forgotten, _⟩ | ⟨_, bears, _⟩
      · rw [forgotten] at remembered
        cases remembered
      · exact ⟨derives.kind ▸ bears, rfl⟩

theorem handle_amends (made : List Container) (formatter : Formatter) (results : Results)
    (traces : Results.Traces made results) (distinct : (results.containers.map Container.id).Nodup) (now : Time)
    (due : Timer.Entry Task) : results.Amends due.task.Reaches (formatter.handle results now due).2 := by
  rcases task_pass_or_measure due.task with ⟨scope, passes⟩ | ⟨id, measures⟩
  · obtain ⟨ground, _, same⟩ := handle_pass formatter results now due scope passes
    rw [same]
    exact run_pass_amends ground results distinct now due.task scope passes
  · rw [(handle_measure formatter results now due id measures).2, measures]
    exact measure_amends made results traces distinct id

end Formatter
end ChainExplorer
