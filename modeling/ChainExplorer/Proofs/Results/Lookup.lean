import ChainExplorer.Results.Basic

set_option autoImplicit false

namespace ChainExplorer

theorem mem_container_hash_fields (container : Container) (id : FieldId) :
    id ∈ container.hashFields ↔
      id.container = container.id ∧ ∃ field, container.fields[id.index]? = some field ∧ field.kind.bearsHash := by
  simp only [Container.hashFields, List.mem_filterMap, Prod.exists, List.mk_mem_zipIdx_iff_getElem?]
  constructor
  · rintro ⟨field, index, access, selected⟩
    by_cases bears : field.kind.bearsHash
    · simp only [if_pos bears, Option.some.injEq] at selected
      subst selected
      exact ⟨rfl, field, access, bears⟩
    · simp [bears] at selected
  · rintro ⟨owner, field, access, bears⟩
    refine ⟨field, id.index, access, ?_⟩
    simp only [if_pos bears, ← owner]

namespace Results

theorem mem_hash_fields (results : Results) (scope : Option ContainerId) (id : FieldId) :
    id ∈ results.hashFields scope ↔
      (scope = none ∨ scope = some id.container) ∧
        ∃ container ∈ results.containers, container.id = id.container ∧
          ∃ field, container.fields[id.index]? = some field ∧ field.kind.bearsHash := by
  simp only [hashFields, List.mem_flatMap, List.mem_filter, mem_container_hash_fields]
  cases scope with
  | none =>
      constructor
      · rintro ⟨container, ⟨member, _⟩, owner, field⟩
        exact ⟨.inl rfl, container, member, owner.symm, field⟩
      · rintro ⟨_, container, member, owner, field⟩
        exact ⟨container, ⟨member, rfl⟩, owner.symm, field⟩
  | some number =>
      constructor
      · rintro ⟨container, ⟨member, chosen⟩, owner, field⟩
        have same : container.id = number := by simpa using chosen
        exact ⟨.inr (congrArg some (same.symm.trans owner.symm)), container, member, owner.symm, field⟩
      · rintro ⟨inScope, container, member, owner, field⟩
        have same : number = id.container := by simpa using inScope
        exact ⟨container, ⟨member, by simp [owner, same]⟩, owner.symm, field⟩

theorem container_found (results : Results) (number : ContainerId) (container : Container)
    (found : results.container? number = some container) :
    container ∈ results.containers ∧ container.id = number := by
  refine ⟨List.mem_of_find?_eq_some found, ?_⟩
  simpa using List.find?_some found

theorem field_found (results : Results) (id : FieldId) (field : Field) (found : results.field? id = some field) :
    ∃ container, results.container? id.container = some container ∧ container.fields[id.index]? = some field := by
  unfold field? at found
  cases lookup : results.container? id.container with
  | none => simp [lookup] at found
  | some container => exact ⟨container, rfl, by simpa [lookup] using found⟩

theorem field_of_container (results : Results) (id : FieldId) (container : Container)
    (found : results.container? id.container = some container) :
    results.field? id = container.fields[id.index]? := by
  unfold field?
  rw [found]

-- A field that is found is among those a pass visits, whatever other containers there are.
theorem found_hash_field (results : Results) (scope : Option ContainerId) (id : FieldId) (field : Field)
    (found : results.field? id = some field) (bears : field.kind.bearsHash)
    (inScope : scope = none ∨ scope = some id.container) : id ∈ results.hashFields scope := by
  obtain ⟨container, lookup, access⟩ := field_found results id field found
  obtain ⟨member, owner⟩ := container_found results id.container container lookup
  exact (mem_hash_fields results scope id).mpr ⟨inScope, container, member, owner, field, access, bears⟩

theorem find_update_in_same (id : FieldId) (change : Field → Field) (containers : List Container) :
    (updateIn id change containers).find? (fun container => container.id == id.container) =
      (containers.find? (fun container => container.id == id.container)).map
        (fun container => { container with fields := container.fields.modify id.index change }) := by
  induction containers with
  | nil => rfl
  | cons container rest ih =>
      by_cases same : container.id = id.container
      · simp [updateIn, same]
      · simp [updateIn, same, ih]

theorem find_update_in_other (id : FieldId) (change : Field → Field) (containers : List Container)
    (number : ContainerId) (different : id.container ≠ number) :
    (updateIn id change containers).find? (fun container => container.id == number) =
      containers.find? (fun container => container.id == number) := by
  induction containers with
  | nil => rfl
  | cons container rest ih =>
      by_cases same : container.id = id.container
      · simp [updateIn, same, different]
      · rw [updateIn, if_neg same, List.find?_cons, List.find?_cons, ih]

theorem field_update_same (results : Results) (id : FieldId) (change : Field → Field) :
    (results.update id change).field? id = (results.field? id).map change := by
  simp only [field?, container?, update, find_update_in_same]
  cases results.containers.find? (fun container => container.id == id.container) with
  | none => rfl
  | some container => simp

theorem field_update_other (results : Results) (id other : FieldId) (change : Field → Field)
    (different : other ≠ id) : (results.update id change).field? other = results.field? other := by
  by_cases same : id.container = other.container
  · have apart : id.index ≠ other.index := by
      intro place
      exact different (by cases id; cases other; simp_all)
    simp only [field?, container?, update, ← same, find_update_in_same]
    cases results.containers.find? (fun container => container.id == id.container) with
    | none => rfl
    | some container => simp [apart]
  · simp only [field?, container?, update, find_update_in_other id change _ _ same]

theorem update_in_ids (id : FieldId) (change : Field → Field) (containers : List Container) :
    (updateIn id change containers).map Container.id = containers.map Container.id := by
  induction containers with
  | nil => rfl
  | cons container rest ih =>
      by_cases same : container.id = id.container
      · simp [updateIn, same]
      · simp [updateIn, same, ih]

-- The labels of all fields, from top to bottom. They decide how wide the column of the values is.
def labels (results : Results) : List String := (results.containers.flatMap Container.fields).map Field.label

theorem map_modify_same {α β : Type} (view : α → β) (change : α → α) (same : ∀ item, view (change item) = view item)
    (items : List α) (index : Nat) : (items.modify index change).map view = items.map view := by
  induction items generalizing index with
  | nil => simp
  | cons head rest ih => cases index <;> simp [same, ih]

theorem update_in_labels (id : FieldId) (change : Field → Field) (same : ∀ field, (change field).label = field.label)
    (containers : List Container) :
    ((updateIn id change containers).flatMap Container.fields).map Field.label =
      (containers.flatMap Container.fields).map Field.label := by
  induction containers with
  | nil => rfl
  | cons container rest ih =>
      by_cases here : container.id = id.container
      · simp [updateIn, here, map_modify_same Field.label change same]
      · simp [updateIn, here, ih]

theorem update_labels (results : Results) (id : FieldId) (change : Field → Field)
    (same : ∀ field, (change field).label = field.label) : (results.update id change).labels = results.labels :=
  update_in_labels id change same results.containers

-- What formatting may change: the texts of fields, and nothing else of what is on display.
structure Retexts (before after : Results) : Prop where
  ids : after.containers.map Container.id = before.containers.map Container.id
  labels : after.labels = before.labels
  nextId : after.nextId = before.nextId
  fields : ∀ id field, after.field? id = some field →
    ∃ old, before.field? id = some old ∧ field.kind = old.kind ∧ field.box = old.box

theorem retexts_refl (results : Results) : Retexts results results :=
  ⟨rfl, rfl, rfl, fun _ field found => ⟨field, found, rfl, rfl⟩⟩

theorem retexts_trans (first second third : Results) (before : Retexts first second)
    (after : Retexts second third) : Retexts first third := by
  refine ⟨after.ids.trans before.ids, after.labels.trans before.labels, after.nextId.trans before.nextId, ?_⟩
  intro id field found
  obtain ⟨middle, access, kind, box⟩ := after.fields id field found
  obtain ⟨old, origin, oldKind, oldBox⟩ := before.fields id middle access
  exact ⟨old, origin, kind.trans oldKind, box.trans oldBox⟩

theorem update_retexts (results : Results) (id : FieldId) (change : Field → Field)
    (same : ∀ field, (change field).label = field.label ∧ (change field).kind = field.kind ∧
      (change field).box = field.box) : Retexts results (results.update id change) := by
  refine ⟨update_in_ids id change results.containers, update_labels results id change fun field => (same field).1,
    rfl, ?_⟩
  intro other field found
  by_cases here : other = id
  · subst here
    rw [field_update_same] at found
    obtain ⟨old, access, changed⟩ := Option.map_eq_some_iff.mp found
    exact ⟨old, access, changed ▸ (same old).2⟩
  · rw [field_update_other results id other change here] at found
    exact ⟨field, found, rfl, rfl⟩

end Results
end ChainExplorer
