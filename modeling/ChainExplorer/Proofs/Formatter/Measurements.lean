import ChainExplorer.Proofs.Formatter.Reach
import ChainExplorer.Proofs.Timer.Index

set_option autoImplicit false

namespace ChainExplorer

namespace Field

-- The text that is remembered, unless it is empty, or else the one on display.
def ownText (field : Field) : String := ((field.fullHash.filter fun text => !text.isEmpty).or field.value).getD ""

theorem judged_own_text (field : Field) : field.judgedText = field.ownText := by
  unfold judgedText ownText
  split
  · rename_i forgotten
    rw [forgotten]
    rfl
  · rename_i empty
    rw [empty]
    rfl
  · rename_i text present remembered
    have kept : (some text).filter (fun text => !text.isEmpty) = some text := by
      have filled : text ≠ "" := by
        rintro rfl
        exact present rfl
      simp [Option.filter, filled]
    rw [remembered, kept]
    rfl

theorem in_full_own_text (field : Field) :
    field.inFull = if field.ownText.length = 64 then field.reset field.ownText else field := by
  by_cases full : field.ownText.length = 64
  · rw [if_pos full]
    refine in_full_hashed field _ ((hash_judged field _).mpr ⟨judged_own_text field, ?_⟩)
    simpa [Hash.isFull, Hash.fullLength] using full
  · rw [if_neg full]
    refine in_full_unhashed field ?_
    rw [hash?, judged_own_text, if_neg]
    simpa [Hash.isFull, Hash.fullLength] using full

theorem hash_own_text (field : Field) : field.hash?.isSome ↔ field.ownText.length = 64 := by
  rw [hash?, judged_own_text]
  by_cases full : field.ownText.length = 64 <;> simp [Hash.isFull, Hash.fullLength, full]

end Field

namespace Results

-- The fields on display with their addresses, from top to bottom.
def placed (results : Results) : List (FieldId × Field) :=
  results.containers.flatMap fun container =>
    container.fields.zipIdx.map fun (field, index) => (⟨container.id, index⟩, field)

-- Those in a scope that bear a hash.
def bearing (results : Results) (scope : Option ContainerId) : List (FieldId × Field) :=
  results.placed.filter fun (id, field) => (scope = none ∨ scope = some id.container) ∧ field.kind.bearsHash

theorem mem_placed (results : Results) (id : FieldId) (field : Field) :
    (id, field) ∈ results.placed ↔
      ∃ container ∈ results.containers, container.id = id.container ∧ container.fields[id.index]? = some field := by
  simp only [placed, List.mem_flatMap, List.mem_map, Prod.exists, List.mk_mem_zipIdx_iff_getElem?, Prod.mk.injEq]
  constructor
  · rintro ⟨container, shown, _, index, access, rfl, rfl⟩
    exact ⟨container, shown, rfl, access⟩
  · rintro ⟨container, shown, owner, access⟩
    exact ⟨container, shown, field, id.index, access, by rw [owner], rfl⟩

theorem bearing_places (container : Container) (inScope : ContainerId → Prop) [DecidablePred inScope] :
    (((container.fields.zipIdx.map fun (field, index) => ((⟨container.id, index⟩ : FieldId), field)).filter
      fun (id, field) => inScope id.container ∧ field.kind.bearsHash).map Prod.fst) =
        if inScope container.id then container.hashFields else [] := by
  unfold Container.hashFields
  induction container.fields.zipIdx with
  | nil => simp
  | cons place rest ih =>
      obtain ⟨field, index⟩ := place
      rw [List.map_cons, List.filter_cons]
      by_cases chosen : inScope container.id
      · rw [if_pos chosen] at ih ⊢
        rw [List.filterMap_cons, ← ih]
        cases bears : field.kind.bearsHash <;> simp [chosen, bears]
      · rw [if_neg chosen] at ih ⊢
        simpa [chosen] using ih

theorem hash_fields_bearing (results : Results) (scope : Option ContainerId) :
    results.hashFields scope = (results.bearing scope).map Prod.fst := by
  unfold hashFields bearing placed
  dsimp only
  induction results.containers with
  | nil => rfl
  | cons container rest ih =>
      have places := bearing_places container fun number => scope = none ∨ scope = some number
      rw [List.flatMap_cons, List.filter_append, List.map_append, ← ih, places, List.filter_cons]
      cases scope with
      | none => simp
      | some number =>
          by_cases chosen : container.id = number
          · simp [chosen]
          · simp [chosen, Ne.symm chosen]

theorem placed_addresses (results : Results) :
    results.placed.map Prod.fst =
      results.containers.flatMap fun container => (List.range container.fields.length).map (FieldId.mk container.id) := by
  unfold placed
  rw [List.map_flatMap]
  refine List.flatMap_congr fun container _ => ?_
  rw [List.range_eq_range', ← List.zipIdx_map_snd, List.map_map, List.map_map]
  rfl

section Distinct

variable (results : Results) (distinct : (results.containers.map Container.id).Nodup)
include distinct

theorem placed_found (place : FieldId × Field) (listed : place ∈ results.placed) :
    results.field? place.1 = some place.2 := by
  obtain ⟨id, field⟩ := place
  obtain ⟨container, shown, owner, access⟩ := (mem_placed results id field).mp listed
  rw [show id = ⟨container.id, id.index⟩ by rw [owner], displayed_field results distinct container shown]
  exact access

theorem placed_distinct : (results.placed.map Prod.fst).Nodup := by
  rw [placed_addresses]
  refine List.nodup_flatMap.mpr ⟨fun container _ => ?_, ?_⟩
  · exact List.nodup_range.map fun a b same => (FieldId.mk.inj same).2
  · refine (List.pairwise_map.mp distinct).imp fun {a b} apart => ?_
    intro id first second
    obtain ⟨_, _, rfl⟩ := List.mem_map.mp first
    obtain ⟨_, _, same⟩ := List.mem_map.mp second
    exact apart (FieldId.mk.inj same).1.symm

theorem visited_iff (scope : Option ContainerId) (place : FieldId × Field) (listed : place ∈ results.placed) :
    place.1 ∈ results.hashFields scope ↔ place ∈ results.bearing scope := by
  rw [hash_fields_bearing, List.mem_map]
  constructor
  · rintro ⟨other, chosen, same⟩
    have known := List.mem_of_mem_filter chosen
    rwa [List.inj_on_of_nodup_map (placed_distinct results distinct) known listed same] at chosen
  · exact fun chosen => ⟨place, chosen, rfl⟩

end Distinct

-- What is on display is told by the addresses and by what is found there.
theorem placed_ext (before after : Results) (change : FieldId × Field → Field)
    (distinct : (after.containers.map Container.id).Nodup)
    (same : after.placed.map Prod.fst = before.placed.map Prod.fst)
    (found : ∀ place ∈ before.placed, after.field? place.1 = some (change place)) :
    after.placed = before.placed.map fun place => (place.1, change place) := by
  have known : after.placed.map (fun place => (place.1, some place.2)) =
      (after.placed.map Prod.fst).map fun id => (id, after.field? id) := by
    rw [List.map_map]
    refine List.map_congr_left fun place listed => ?_
    rw [Function.comp_apply, placed_found after distinct place listed]
  rw [same, List.map_map] at known
  have injective : Function.Injective fun place : FieldId × Field => (place.1, some place.2) := by
    rintro ⟨a, first⟩ ⟨b, second⟩ alike
    cases alike
    rfl
  refine List.map_injective_iff.mpr injective ?_
  rw [known, List.map_map]
  refine List.map_congr_left fun place listed => ?_
  rw [Function.comp_apply, Function.comp_apply, found place listed]

theorem amends_frames (reached : FieldId → Field → Prop) (before after : Results)
    (amends : before.Amends reached after) :
    after.containers.map (fun container => (container.id, container.title, container.fields.length)) =
      before.containers.map fun container => (container.id, container.title, container.fields.length) := by
  have framed := amends.containers.imp fun old new (amended : Container.Amends reached old new) =>
    show (old.id, old.title, old.fields.length) = (new.id, new.title, new.fields.length) by
      rw [amended.id, amended.title, amended.size]
  have same := List.forall₂_map_left_iff.mpr (List.forall₂_map_right_iff.mpr framed)
  rw [List.forall₂_eq_eq_eq] at same
  exact same.symm

theorem amends_places (reached : FieldId → Field → Prop) (before after : Results)
    (amends : before.Amends reached after) : after.placed.map Prod.fst = before.placed.map Prod.fst := by
  have frames := amends_frames reached before after amends
  have places := congrArg (List.flatMap fun frame => (List.range frame.2.2).map (FieldId.mk frame.1)) frames
  rwa [List.flatMap_map, List.flatMap_map, ← placed_addresses, ← placed_addresses] at places

theorem amends_numbers (reached : FieldId → Field → Prop) (before after : Results)
    (amends : before.Amends reached after) :
    after.containers.map (fun container => (container.id, container.title)) =
      before.containers.map fun container => (container.id, container.title) := by
  have frames := amends_frames reached before after amends
  have numbers := congrArg (List.map fun frame => (frame.1, frame.2.1)) frames
  rwa [List.map_map, List.map_map] at numbers

-- A change through an address is a change of the field that stands there.
theorem update_placed (results : Results) (distinct : (results.containers.map Container.id).Nodup) (id : FieldId)
    (change : Field → Field) :
    (results.update id change).placed =
      results.placed.map fun place => (place.1, if place.1 = id then change place.2 else place.2) := by
  have numbers : ((results.update id change).containers.map Container.id).Nodup := by
    rw [show (results.update id change).containers = updateIn id change results.containers from rfl, update_in_ids]
    exact distinct
  refine placed_ext results _ _ numbers (amends_places _ _ _ (update_amends results id change)) ?_
  intro place listed
  have here := placed_found results distinct place listed
  by_cases same : place.1 = id
  · rw [if_pos same, ← same, field_update_same, here]
    rfl
  · rw [if_neg same, field_update_other results id place.1 change same, here]

end Results

namespace Formatter

-- The effect of a pass on everything on display.
theorem run_pass_placed (formatter : Formatter) (results : Results)
    (distinct : (results.containers.map Container.id).Nodup) (now : Time) (scope : Option ContainerId) :
    (formatter.runPass results now scope).results.placed =
      results.placed.map fun place => (place.1, if place ∈ results.bearing scope then place.2.inFull else place.2) := by
  have retexts := run_pass_retexts formatter results now scope
  have amends := visits_amend now (results.hashFields scope) ⟨formatter, results, 0⟩
  refine Results.placed_ext results _ _ (retexts.ids ▸ distinct) (Results.amends_places _ _ _ amends) ?_
  intro place listed
  rw [run_pass_field, Results.placed_found results distinct place listed, Option.map_some]
  simp only [Results.visited_iff results distinct scope place listed]

-- The measurements of some fields, under numbers that follow one another.
def measurements (now : Time) (first : TimerId) (ids : List FieldId) : List (Timer.Entry Task) :=
  (ids.zipIdx first).map fun (id, timer) => ⟨now, timer, .measure id⟩

def ownEach (formatter : Formatter) (now : Time) (ids : List FieldId) : Formatter :=
  ids.foldl (fun formatter id => (formatter.own now 0 (.measure id)).1) formatter

-- Visits never change what counts as a hash, so those that find one are known from the start.
theorem visits_measured (now : Time) (ids : List FieldId) (pass : Pass) :
    let hashed := ids.filter fun id => ((pass.results.field? id).bind Field.hash?).isSome
    (ids.foldl (Pass.visit now) pass).formatter = pass.formatter.ownEach now hashed ∧
      (ids.foldl (Pass.visit now) pass).count = pass.count + hashed.length := by
  induction ids generalizing pass with
  | nil => exact ⟨rfl, rfl⟩
  | cons id rest ih =>
      have judged (other : FieldId) :
          (((pass.visit now id).results.field? other).bind Field.hash?).isSome =
            ((pass.results.field? other).bind Field.hash?).isSome := by
        rw [visit_field]
        cases pass.results.field? other with
        | none => rfl
        | some field =>
            rw [Option.map_some, Option.bind_some, Option.bind_some]
            split
            · rw [Field.in_full_hash]
            · rfl
      obtain ⟨owned, count⟩ := ih (pass.visit now id)
      simp only [judged] at owned count
      rw [List.foldl_cons, owned, count]
      dsimp only
      cases found : (pass.results.field? id).bind Field.hash? with
      | none =>
          rw [visit_skips now pass id found, List.filter_cons_of_neg (by simp [found])]
          exact ⟨rfl, rfl⟩
      | some hash =>
          rw [visit_resets now pass id hash found, List.filter_cons_of_pos (by simp [found])]
          refine ⟨rfl, ?_⟩
          rw [List.length_cons]
          lia

-- What owning a measurement of each of some fields makes of a formatter.
structure MeasuresEach (now : Time) (ids : List FieldId) (before after : Formatter) : Prop where
  global : after.global = before.global
  delay : after.settleDelay = before.settleDelay
  next : after.timers.nextId = before.timers.nextId + ids.length
  added : after.timers.entries.Perm (before.timers.entries ++ measurements now before.timers.nextId ids)
  kept : before.timers.entries.Sublist after.timers.entries
  owned : ∀ timer, timer ∈ after.owned ↔
    timer ∈ before.owned ∨ timer ∈ (measurements now before.timers.nextId ids).map Timer.Entry.id
  consistent : before.timers.Consistent → after.timers.Consistent

theorem own_each_measures (now : Time) (ids : List FieldId) (formatter : Formatter) :
    MeasuresEach now ids formatter (formatter.ownEach now ids) := by
  induction ids generalizing formatter with
  | nil =>
      refine ⟨rfl, rfl, rfl, ?_, List.Sublist.refl _, ?_, id⟩
      · exact List.Perm.of_eq (List.append_nil _).symm
      · exact fun timer => (or_iff_left List.not_mem_nil).symm
  | cons id rest ih =>
      have after := ih (formatter.own now 0 (.measure id)).1
      refine ⟨after.global, after.delay, after.next.trans ?_, after.added.trans ?_, ?_, ?_, ?_⟩
      · exact Nat.add_right_comm _ _ _
      · have scheduled := Timer.schedule_perm formatter.timers now 0 (.measure id)
        exact (scheduled.append_right _).trans List.perm_middle.symm
      · exact (Timer.insert_entry_sublist _ _).trans after.kept
      · intro timer
        have numbers : (measurements now formatter.timers.nextId (id :: rest)).map Timer.Entry.id =
            formatter.timers.nextId :: (measurements now (formatter.timers.nextId + 1) rest).map Timer.Entry.id := rfl
        rw [numbers, List.mem_cons, or_left_comm, ← or_assoc, ← List.mem_cons]
        exact after.owned timer
      · exact fun before => after.consistent (Timer.schedule_consistent _ now 0 _ before)

theorem each_hash_is_measured_once (formatter : Formatter) (results : Results) (now : Time)
    (scope : Option ContainerId) (distinct : (results.containers.map Container.id).Nodup) :
    let hashed := (results.bearing scope).filter fun place => place.2.ownText.length = 64
    let pass := formatter.runPass results now scope
    (pass.count = hashed.length ∧ MeasuresEach now (hashed.map Prod.fst) formatter pass.formatter) ∧
      (pass.results.placed =
          results.placed.map (fun place => (place.1, if place ∈ hashed then place.2.reset place.2.ownText else place.2)) ∧
        pass.results.containers.map (fun container => (container.id, container.title)) =
          results.containers.map (fun container => (container.id, container.title)) ∧
        pass.results.nextId = results.nextId ∧ pass.results.scroll = results.scroll) ∧
      results.hashFields scope = (results.bearing scope).map Prod.fst ∧
      ∀ place ∈ results.placed, results.field? place.1 = some place.2 ∧
        ∀ change, (results.update place.1 change).placed =
          results.placed.map fun other => if other = place then (place.1, change place.2) else other := by
  intro hashed pass
  have amends := visits_amend now (results.hashFields scope) ⟨formatter, results, 0⟩
  have chosen : (results.hashFields scope).filter (fun id => ((results.field? id).bind Field.hash?).isSome) =
      hashed.map Prod.fst := by
    rw [Results.hash_fields_bearing, List.filter_map]
    refine congrArg _ (List.filter_congr fun place bears => ?_)
    have found := Results.placed_found results distinct place (List.mem_of_mem_filter bears)
    rw [Function.comp_apply, found, Option.bind_some, Bool.eq_iff_iff, Field.hash_own_text, decide_eq_true_iff]
  refine ⟨?_, ⟨?_, Results.amends_numbers _ _ _ amends, amends.nextId, amends.scroll⟩,
    Results.hash_fields_bearing results scope, ?_⟩
  · obtain ⟨owned, count⟩ := visits_measured now (results.hashFields scope) ⟨formatter, results, 0⟩
    rw [chosen] at owned count
    exact ⟨count.trans ((Nat.zero_add _).trans (List.length_map _)), owned ▸ own_each_measures now _ formatter⟩
  · rw [show pass.results.placed = _ from run_pass_placed formatter results distinct now scope]
    refine List.map_congr_left fun place _ => congrArg _ ?_
    rw [Field.in_full_own_text]
    by_cases bears : place ∈ results.bearing scope
    · by_cases full : place.2.ownText.length = 64 <;> simp [hashed, bears, full]
    · simp [hashed, bears]
  · intro place listed
    refine ⟨Results.placed_found results distinct place listed, fun change => ?_⟩
    rw [Results.update_placed results distinct]
    refine List.map_congr_left fun other known => ?_
    by_cases same : other = place
    · rw [same, if_pos rfl, if_pos rfl]
    · have apart : other.1 ≠ place.1 := fun alike =>
        same (List.inj_on_of_nodup_map (Results.placed_distinct results distinct) known listed alike)
      rw [if_neg same, if_neg apart]

-- A hash, the same text in a plain field, a text that is too short, and a hash that was abbreviated.
def mixed : Results :=
  let hash := String.ofList (List.replicate 64 'a')
  ⟨[⟨3, "Block", [{ label := "Hash", kind := .hash, value := some hash },
      { label := "Note", kind := .plain, value := some hash }]⟩,
    ⟨5, "Transaction", [{ label := "Hash", kind := .transactionHash, value := some "abc" },
      ⟨"Block", .blockHashes, some (Hash.abbreviate hash), some hash, some ⟨22, 1⟩⟩]⟩], 6, 0⟩

theorem mixed_has_two_measured :
    let formatter := ((withDelay 200).request 0 none).1
    (mixed.containers.map Container.id).Nodup ∧ (formatter.runPass mixed 5 none).count = 2 ∧
      MeasuresEach 5 [⟨3, 0⟩, ⟨5, 1⟩] formatter (formatter.runPass mixed 5 none).formatter := by
  intro formatter
  have distinct : (mixed.containers.map Container.id).Nodup := by decide
  obtain ⟨⟨count, measures⟩, _⟩ := each_hash_is_measured_once formatter mixed 5 none distinct
  have hashed : ((mixed.bearing none).filter fun place => place.2.ownText.length = 64).map Prod.fst =
      [⟨3, 0⟩, ⟨5, 1⟩] := by decide +kernel
  rw [hashed] at measures
  exact ⟨distinct, count.trans ((List.length_map _).symm.trans (congrArg List.length hashed)), measures⟩

end Formatter
end ChainExplorer
