import ChainExplorer.Explorer
import ChainExplorer.Proofs.Formatter.Tick
import ChainExplorer.Proofs.View.Payload

set_option autoImplicit false

namespace ChainExplorer

open Search (Completion)

namespace Results

-- All that is on display comes from a log of numbered containers, and there is at most one of it.
structure Accounted (made : List Container) (results : Results) : Prop where
  traces : Traces made results
  distinct : (made.map Container.id).Nodup
  numbered : ∀ origin ∈ made, origin.id < results.nextId
  alone : results.containers.length ≤ 1

theorem displayed_numbered (made : List Container) (results : Results) (accounted : Accounted made results)
    (number : ContainerId) (displayed : number ∈ results.containers.map Container.id) : number < results.nextId := by
  obtain ⟨container, shown, same⟩ := List.mem_map.mp displayed
  obtain ⟨origin, known, derives⟩ := accounted.traces container shown
  rw [← same, derives.id]
  exact accounted.numbered origin known

theorem retexts_accounted (made : List Container) (before after : Results) (accounted : Accounted made before)
    (retexts : Retexts before after) (traces : Traces made after) : Accounted made after := by
  refine ⟨traces, accounted.distinct, ?_, ?_⟩
  · exact fun origin known => retexts.nextId ▸ accounted.numbered origin known
  · have size := congrArg List.length retexts.ids
    rw [List.length_map, List.length_map] at size
    exact size ▸ accounted.alone

end Results

-- A new container, alone on display, is still to be noticed by the formatter. Its number is not below `base`.
def View.Fresh (view : View) (base : ContainerId) : Prop :=
  ∃ container, view.results.containers = [container] ∧ container.Untouched ∧ container.id ∈ view.rendered ∧
    base ≤ container.id

namespace Explorer

-- The container that an answer makes.
def made? (explorer : Explorer) (completion : Completion) : Option Container :=
  (explorer.controller.rendering? completion).map fun rendering =>
    (explorer.view.results.create rendering.aspect.title (rendering.aspect.fields rendering.object)).2

-- The containers that answers make, one after another.
def making : Explorer → List Completion → List Container
  | _, [] => []
  | explorer, completion :: rest =>
      (explorer.made? completion).toList ++ making (explorer.receive completion) rest

theorem receive_unmade (explorer : Explorer) (completion : Completion)
    (unmade : explorer.made? completion = none) : (explorer.receive completion).view = explorer.view := by
  have silent : explorer.controller.rendering? completion = none := by simpa [made?] using unmade
  unfold receive
  rw [silent]

theorem receive_made (explorer : Explorer) (completion : Completion) (container : Container)
    (made : explorer.made? completion = some container) :
    container.id = explorer.view.results.nextId ∧ container.Untouched ∧
      (explorer.receive completion).view.results.containers = [container] ∧
      (explorer.receive completion).view.results.nextId = explorer.view.results.nextId + 1 ∧
      (explorer.receive completion).view.rendered = explorer.view.rendered ++ [container.id] := by
  obtain ⟨rendering, shown, same⟩ := Option.map_eq_some_iff.mp made
  subst same
  unfold receive
  rw [shown]
  exact ⟨rfl, fun field member => aspect_fields_untouched _ _ field member, rfl, rfl, rfl⟩

theorem receive_accounted (explorer : Explorer) (completion : Completion) (made : List Container)
    (accounted : explorer.view.results.Accounted made) :
    (explorer.receive completion).view.results.Accounted (made ++ (explorer.made? completion).toList) := by
  cases making : explorer.made? completion with
  | none =>
      rw [receive_unmade explorer completion making, Option.toList_none, List.append_nil]
      exact accounted
  | some container =>
      obtain ⟨number, untouched, shown, next, _⟩ := receive_made explorer completion container making
      rw [Option.toList_some]
      constructor
      · intro other member
        rw [shown, List.mem_singleton] at member
        subst member
        exact ⟨other, List.mem_append_right made (List.mem_singleton_self other),
          Container.derives_untouched other untouched⟩
      · rw [List.map_append, List.map_singleton, List.nodup_append]
        refine ⟨accounted.distinct, List.nodup_singleton _, ?_⟩
        intro known member new here
        obtain ⟨origin, logged, same⟩ := List.mem_map.mp member
        rw [List.mem_singleton.mp here, number, ← same]
        exact Nat.ne_of_lt (accounted.numbered origin logged)
      · intro origin member
        rw [next]
        rcases List.mem_append.mp member with before | added
        · exact Nat.lt_succ_of_lt (accounted.numbered origin before)
        · rw [List.mem_singleton.mp added, number]
          exact Nat.lt_succ_self _
      · rw [shown]
        exact Nat.le_refl 1

theorem receives_accounted (answers : List Completion) (explorer : Explorer) (made : List Container)
    (accounted : explorer.view.results.Accounted made) :
    (answers.foldl receive explorer).view.results.Accounted (made ++ explorer.making answers) := by
  induction answers generalizing explorer made with
  | nil =>
      rw [making, List.append_nil]
      exact accounted
  | cons completion rest ih =>
      rw [making, ← List.append_assoc]
      exact ih (explorer.receive completion) _ (receive_accounted explorer completion made accounted)

theorem receive_view (explorer : Explorer) (completion : Completion) (base : ContainerId)
    (below : base ≤ explorer.view.results.nextId) :
    (explorer.receive completion).view = explorer.view ∨ (explorer.receive completion).view.Fresh base := by
  cases making : explorer.made? completion with
  | none => exact .inl (receive_unmade explorer completion making)
  | some container =>
      obtain ⟨number, untouched, shown, _, rendered⟩ := receive_made explorer completion container making
      exact .inr ⟨container, shown, untouched, rendered ▸ by simp, number ▸ below⟩

theorem receive_next (explorer : Explorer) (completion : Completion) :
    explorer.view.results.nextId ≤ (explorer.receive completion).view.results.nextId := by
  cases making : explorer.made? completion with
  | none => exact (receive_unmade explorer completion making) ▸ Nat.le_refl _
  | some container =>
      obtain ⟨_, _, _, next, _⟩ := receive_made explorer completion container making
      exact next ▸ Nat.le_succ _

theorem receives_next (answers : List Completion) (explorer : Explorer) :
    explorer.view.results.nextId ≤ (answers.foldl receive explorer).view.results.nextId := by
  refine List.foldlRecOn (motive := fun after : Explorer => explorer.view.results.nextId ≤ after.view.results.nextId) answers _
    (Nat.le_refl _) ?_
  intro after before completion _
  exact Nat.le_trans before (receive_next after completion)

-- A later answer keeps a fresh view, or puts another one in its place.
theorem receives_view (answers : List Completion) (explorer : Explorer) (base : ContainerId)
    (below : base ≤ explorer.view.results.nextId) :
    (answers.foldl receive explorer).view = explorer.view ∨ (answers.foldl receive explorer).view.Fresh base := by
  induction answers generalizing explorer with
  | nil => exact .inl rfl
  | cons completion rest ih =>
      rcases ih (explorer.receive completion) (Nat.le_trans below (receive_next explorer completion)) with same | fresh
      · rw [List.foldl_cons, same]
        exact receive_view explorer completion base below
      · exact .inr fresh

theorem receives_formatter (answers : List Completion) (explorer : Explorer) :
    (answers.foldl receive explorer).formatter = explorer.formatter :=
  List.foldlRecOn (motive := fun after : Explorer => after.formatter = explorer.formatter) answers _ rfl
    fun _ before _ _ => before

-- Answers wait in the order in which they arrive, as long as the explorer takes any.
theorem delivered_inbox (answers : List Completion) (explorer : Explorer) :
    (answers.foldl (fun explorer answer => (explorer.deliver answer).1) explorer) =
      { explorer with inbox := explorer.inbox ++ if explorer.connected then answers else [] } := by
  induction answers generalizing explorer with
  | nil => simp
  | cons answer rest ih =>
      rw [List.foldl_cons, ih]
      unfold deliver
      cases connected : explorer.connected <;> simp [connected]

end Explorer
end ChainExplorer
