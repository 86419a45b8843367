import ChainExplorer.Proofs.Results.Lookup
import Mathlib.Data.List.Forall2
import Mathlib.Data.List.Nodup

set_option autoImplicit false

namespace ChainExplorer

theorem full_not_empty (text : String) (full : Hash.isFull text) : text ≠ "" := by
  rintro rfl
  revert full
  decide

namespace Field

-- A field that no pass and no drawing has touched.
def Untouched (field : Field) : Prop := field.fullHash = none ∧ field.box = none

-- The two ways in which a field may differ from the one that was made: not at all, or by a hash that
-- is remembered, and shown or abbreviated. The box is no part of it.
structure Derives (made field : Field) : Prop where
  label : field.label = made.label
  kind : field.kind = made.kind
  text : (field.fullHash = none ∧ field.value = made.value) ∨
    ∃ hash, made.kind.bearsHash ∧ Hash.isFull hash ∧ made.value = some hash ∧ field.fullHash = some hash ∧
      (field.value = some hash ∨ field.value = some (Hash.abbreviate hash))

theorem derives_untouched (field : Field) (untouched : field.Untouched) : Derives field field :=
  ⟨rfl, rfl, .inl ⟨untouched.1, rfl⟩⟩

theorem judged_remembered (field : Field) (hash : String) (remembered : field.fullHash = some hash)
    (full : Hash.isFull hash) : field.judgedText = hash := by
  have present := full_not_empty hash full
  unfold judgedText
  rw [remembered]
  split
  · rename_i none_or
    cases none_or
  · rename_i empty
    exact absurd (Option.some.inj empty) present
  · rename_i text _ same
    exact (Option.some.inj same).symm

theorem judged_unremembered (field : Field) (forgotten : field.fullHash = none) :
    field.judgedText = field.value.getD "" := by
  unfold judgedText
  rw [forgotten]

theorem hash_judged (field : Field) (hash : String) :
    field.hash? = some hash ↔ field.judgedText = hash ∧ Hash.isFull hash := by
  unfold hash?
  constructor
  · intro found
    split at found
    · rename_i full
      have same := Option.some.inj found
      exact ⟨same, same ▸ full⟩
    · cases found
  · rintro ⟨rfl, full⟩
    rw [if_pos full]

-- What a pass judges is the text that the field was made with, whatever is on display.
theorem derives_hash (made field : Field) (derives : Derives made field) (hash : String) :
    field.hash? = some hash ↔ made.value = some hash ∧ Hash.isFull hash := by
  rw [hash_judged]
  rcases derives.text with ⟨forgotten, value⟩ | ⟨text, _, full, origin, remembered, _⟩
  · rw [judged_unremembered field forgotten, value]
    cases made.value with
    | none =>
        constructor
        · rintro ⟨rfl, full⟩
          exact absurd rfl (full_not_empty _ full)
        · rintro ⟨impossible, _⟩
          cases impossible
    | some text => simp
  · rw [judged_remembered field text remembered full, origin, Option.some.injEq]

theorem derives_reset (made field : Field) (derives : Derives made field) (bears : made.kind.bearsHash)
    (hash : String) (found : field.hash? = some hash) : Derives made (field.reset hash) := by
  obtain ⟨origin, full⟩ := (derives_hash made field derives hash).mp found
  exact ⟨derives.label, derives.kind, .inr ⟨hash, bears, full, origin, rfl, .inl rfl⟩⟩

theorem overflowing_hash (field : Field) (hash : String) :
    field.overflowingHash? = some hash ↔ field.isOverflowing ∧ field.fullHash = some hash := by
  unfold overflowingHash?
  by_cases overflows : field.isOverflowing <;> simp [overflows]

theorem derives_abbreviated (made field : Field) (derives : Derives made field) (hash : String)
    (found : field.overflowingHash? = some hash) : Derives made (field.setValue (Hash.abbreviate hash)) := by
  have remembered := ((overflowing_hash field hash).mp found).2
  rcases derives.text with ⟨forgotten, _⟩ | ⟨text, bears, full, origin, known, _⟩
  · rw [forgotten] at remembered
    cases remembered
  · have same : text = hash := Option.some.inj (known.symm.trans remembered)
    subst same
    exact ⟨derives.label, derives.kind, .inr ⟨text, bears, full, origin, known, .inr rfl⟩⟩

theorem derives_boxed (made field : Field) (derives : Derives made field) (box : Box) :
    Derives made (field.setBox box) :=
  ⟨derives.label, derives.kind, derives.text⟩

end Field

namespace Container

structure Derives (made shown : Container) : Prop where
  id : shown.id = made.id
  title : shown.title = made.title
  fields : List.Forall₂ Field.Derives made.fields shown.fields

def Untouched (container : Container) : Prop := ∀ field ∈ container.fields, field.Untouched

theorem derives_untouched (container : Container) (untouched : container.Untouched) :
    Derives container container :=
  ⟨rfl, rfl, List.forall₂_same.mpr fun field member => Field.derives_untouched field (untouched field member)⟩

end Container

theorem related_modify {α β : Type} (related : α → β → Prop) (origins : List α) (items : List β) (index : Nat)
    (change : β → β) (all : List.Forall₂ related origins items)
    (kept : ∀ origin item, origins[index]? = some origin → items[index]? = some item → related origin item →
      related origin (change item)) : List.Forall₂ related origins (items.modify index change) := by
  induction all generalizing index with
  | nil => simp
  | cons head rest ih =>
      cases index with
      | zero => exact .cons (kept _ _ rfl rfl head) rest
      | succ index => exact .cons head (ih index kept)

theorem related_get {α β : Type} (related : α → β → Prop) (origins : List α) (items : List β)
    (all : List.Forall₂ related origins items) (index : Nat) (item : β) (access : items[index]? = some item) :
    ∃ origin, origins[index]? = some origin ∧ related origin item := by
  induction all generalizing index with
  | nil => simp at access
  | cons head _ ih =>
      cases index with
      | zero => exact ⟨_, rfl, by simpa using Option.some.inj access ▸ head⟩
      | succ index => exact ih index access

namespace Results

-- The log of what was made accounts for everything on display.
def Traces (made : List Container) (results : Results) : Prop :=
  ∀ shown ∈ results.containers, ∃ origin ∈ made, origin.Derives shown

theorem traces_longer (made later : List Container) (results : Results) (traces : Traces made results) :
    Traces (made ++ later) results := by
  intro shown member
  obtain ⟨origin, known, derives⟩ := traces shown member
  exact ⟨origin, List.mem_append_left later known, derives⟩

theorem traces_clear (made : List Container) (results : Results) : Traces made results.clear := by
  intro shown member
  cases member

theorem traces_push (made : List Container) (results : Results) (container : Container)
    (traces : Traces made results) (origin : ∃ origin ∈ made, origin.Derives container) :
    Traces made (results.push container) := by
  intro shown member
  rcases List.mem_append.mp member with before | added
  · exact traces shown before
  · rw [List.mem_singleton.mp added]
    exact origin

theorem traces_replace (made : List Container) (results : Results) (container : Container)
    (origin : ∃ origin ∈ made, origin.Derives container) : Traces made (results.replace container) :=
  traces_push made results.clear container (traces_clear made results) origin

theorem derives_modify (origin container : Container) (derives : origin.Derives container) (index : Nat)
    (change : Field → Field)
    (kept : ∀ made field, origin.fields[index]? = some made → container.fields[index]? = some field →
      made.Derives field → made.Derives (change field)) :
    origin.Derives { container with fields := container.fields.modify index change } :=
  ⟨derives.id, derives.title, related_modify _ _ _ index change derives.fields kept⟩

theorem traces_update_in (made : List Container) (id : FieldId) (change : Field → Field)
    (containers : List Container) (traces : ∀ shown ∈ containers, ∃ origin ∈ made, origin.Derives shown)
    (kept : ∀ container origin field original,
      containers.find? (fun container => container.id == id.container) = some container →
      container.fields[id.index]? = some field → origin ∈ made → origin.id = id.container →
      origin.fields[id.index]? = some original → original.Derives field → original.Derives (change field)) :
    ∀ shown ∈ updateIn id change containers, ∃ origin ∈ made, origin.Derives shown := by
  induction containers with
  | nil => exact traces
  | cons container rest ih =>
      obtain ⟨origin, known, derives⟩ := traces container (by simp)
      intro shown member
      by_cases same : container.id = id.container
      · rw [updateIn, if_pos same] at member
        rcases List.mem_cons.mp member with head | later
        · subst head
          refine ⟨origin, known, derives_modify origin container derives id.index change ?_⟩
          intro original field atOrigin atField
          exact kept container origin field original (by simp [same]) atField known
            (derives.id.symm.trans same) atOrigin
        · exact traces shown (List.mem_cons_of_mem _ later)
      · rw [updateIn, if_neg same] at member
        rcases List.mem_cons.mp member with head | later
        · exact ⟨origin, known, head ▸ derives⟩
        · refine ih (fun other here => traces other (List.mem_cons_of_mem _ here)) ?_ shown later
          intro found origin field original lookup
          exact kept found origin field original (by simpa [same] using lookup)

-- A change of one field keeps the log valid if it keeps what the field stems from.
theorem traces_update (made : List Container) (results : Results) (id : FieldId) (change : Field → Field)
    (traces : Traces made results)
    (kept : ∀ origin field original, results.field? id = some field → origin ∈ made →
      origin.id = id.container → origin.fields[id.index]? = some original → original.Derives field →
      original.Derives (change field)) :
    Traces made (results.update id change) := by
  refine traces_update_in made id change results.containers traces ?_
  intro container origin field original lookup access
  refine kept origin field original ?_
  rw [field_of_container results id container lookup]
  exact access

theorem field_origin (made : List Container) (results : Results) (traces : Traces made results) (id : FieldId)
    (field : Field) (found : results.field? id = some field) :
    ∃ origin ∈ made, origin.id = id.container ∧
      ∃ original, origin.fields[id.index]? = some original ∧ original.Derives field := by
  obtain ⟨container, lookup, access⟩ := field_found results id field found
  obtain ⟨member, owner⟩ := container_found results id.container container lookup
  obtain ⟨origin, known, derives⟩ := traces container member
  obtain ⟨original, place, related⟩ :=
    related_get _ origin.fields container.fields derives.fields id.index field access
  exact ⟨origin, known, derives.id.symm.trans owner, original, place, related⟩

-- An address of a hash, judged by what was made. It stays one whatever becomes of the display.
def HashPlace (made : List Container) (id : FieldId) : Prop :=
  ∃ origin ∈ made, origin.id = id.container ∧
    ∃ original, origin.fields[id.index]? = some original ∧ original.kind.bearsHash

theorem hash_fields_places (made : List Container) (results : Results) (traces : Traces made results)
    (scope : Option ContainerId) (id : FieldId) (member : id ∈ results.hashFields scope) :
    HashPlace made id := by
  obtain ⟨_, container, shown, owner, field, access, bears⟩ := (mem_hash_fields results scope id).mp member
  obtain ⟨origin, known, derives⟩ := traces container shown
  obtain ⟨original, place, related⟩ :=
    related_get _ origin.fields container.fields derives.fields id.index field access
  exact ⟨origin, known, derives.id.symm.trans owner, original, place, related.kind ▸ bears⟩

theorem origin_unique (made : List Container) (distinct : (made.map Container.id).Nodup)
    (first second : Container) (firstKnown : first ∈ made) (secondKnown : second ∈ made)
    (same : first.id = second.id) : first = second :=
  List.inj_on_of_nodup_map distinct firstKnown secondKnown same

theorem hash_place_bears (made : List Container) (distinct : (made.map Container.id).Nodup) (id : FieldId)
    (place : HashPlace made id) (origin : Container) (known : origin ∈ made) (owner : origin.id = id.container)
    (original : Field) (access : origin.fields[id.index]? = some original) : original.kind.bearsHash := by
  obtain ⟨other, otherKnown, otherOwner, field, otherAccess, bears⟩ := place
  have same := origin_unique made distinct origin other known otherKnown (owner.trans otherOwner.symm)
  subst same
  rw [access] at otherAccess
  exact Option.some.inj otherAccess ▸ bears

end Results
end ChainExplorer
