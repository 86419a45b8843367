import ChainExplorer.Proofs.Formatter.Tick
import ChainExplorer.Proofs.Timer.Index

set_option autoImplicit false

namespace ChainExplorer.Formatter

structure Attributed (entries : List (Timer.Entry Task)) (global : Option TimerId) (owned : List TimerId) : Prop where
  distinct : (entries.map Timer.Entry.id).Nodup
  passes : ((entries.filter fun entry => entry.task = .globalPass).map Timer.Entry.id).Perm global.toList
  others : ((entries.filter fun entry => !decide (entry.task = .globalPass)).map Timer.Entry.id).Perm owned

theorem attributed_pending (entries : List (Timer.Entry Task)) (global : Option TimerId) (owned : List TimerId)
    (attributed : Attributed entries global owned) : (global.toList ++ owned).Perm (entries.map Timer.Entry.id) := by
  refine (attributed.passes.symm.append attributed.others.symm).trans ?_
  rw [← List.map_append]
  exact (List.filter_append_perm _ entries).map _

theorem attributed_nodup (entries : List (Timer.Entry Task)) (global : Option TimerId) (owned : List TimerId)
    (attributed : Attributed entries global owned) : (global.toList ++ owned).Nodup :=
  (attributed_pending entries global owned attributed).nodup_iff.mpr attributed.distinct

theorem global_not_owned (entries : List (Timer.Entry Task)) (global : Option TimerId) (owned : List TimerId)
    (attributed : Attributed entries global owned) (id : TimerId) (named : global = some id) : id ∉ owned := by
  have distinct := attributed_nodup entries global owned attributed
  rw [named, Option.toList_some, List.singleton_append] at distinct
  exact (List.nodup_cons.mp distinct).1

theorem global_entry (entries : List (Timer.Entry Task)) (global : Option TimerId) (owned : List TimerId)
    (attributed : Attributed entries global owned) (entry : Timer.Entry Task) (member : entry ∈ entries)
    (task : entry.task = .globalPass) : global = some entry.id := by
  have listed : entry.id ∈ (entries.filter fun entry => entry.task = .globalPass).map Timer.Entry.id :=
    List.mem_map_of_mem (List.mem_filter.mpr ⟨member, by simpa using task⟩)
  exact Option.mem_toList.mp (attributed.passes.mem_iff.mp listed)

theorem owned_entry (entries : List (Timer.Entry Task)) (global : Option TimerId) (owned : List TimerId)
    (attributed : Attributed entries global owned) (entry : Timer.Entry Task) (member : entry ∈ entries)
    (task : entry.task ≠ .globalPass) : entry.id ∈ owned := by
  refine attributed.others.mem_iff.mp (List.mem_map_of_mem (List.mem_filter.mpr ⟨member, ?_⟩))
  simpa using task

theorem passes_named (entries : List (Timer.Entry Task)) (global : Option TimerId) (owned : List TimerId)
    (attributed : Attributed entries global owned) :
    (entries.filter fun entry => entry.task = .globalPass).map Timer.Entry.id = global.toList := by
  have passes := attributed.passes
  cases global with
  | none => exact List.perm_nil.mp passes
  | some id => exact List.perm_singleton.mp passes

theorem attributed_perm (before after : List (Timer.Entry Task)) (global : Option TimerId) (owned : List TimerId)
    (attributed : Attributed before global owned) (same : before.Perm after) : Attributed after global owned where
  distinct := (same.map _).nodup_iff.mp attributed.distinct
  passes := ((same.filter _).map _).symm.trans attributed.passes
  others := ((same.filter _).map _).symm.trans attributed.others

theorem attributed_owns (entries : List (Timer.Entry Task)) (global : Option TimerId) (owned : List TimerId)
    (attributed : Attributed entries global owned) (entry : Timer.Entry Task) (task : entry.task ≠ .globalPass)
    (fresh : entry.id ∉ entries.map Timer.Entry.id) : Attributed (entry :: entries) global (entry.id :: owned) := by
  refine ⟨List.nodup_cons.mpr ⟨fresh, attributed.distinct⟩, ?_, ?_⟩
  · rw [List.filter_cons_of_neg (by simpa using task)]
    exact attributed.passes
  · rw [List.filter_cons_of_pos (by simpa using task)]
    exact attributed.others.cons _

theorem attributed_names (entries : List (Timer.Entry Task)) (owned : List TimerId)
    (attributed : Attributed entries none owned) (entry : Timer.Entry Task) (task : entry.task = .globalPass)
    (fresh : entry.id ∉ entries.map Timer.Entry.id) : Attributed (entry :: entries) (some entry.id) owned := by
  refine ⟨List.nodup_cons.mpr ⟨fresh, attributed.distinct⟩, ?_, ?_⟩
  · rw [List.filter_cons_of_pos (by simpa using task)]
    exact attributed.passes.cons _
  · rw [List.filter_cons_of_neg (by simpa using task)]
    exact attributed.others

-- A number is taken out of the queue and forgotten by both of its owners.
theorem attributed_without (entries : List (Timer.Entry Task)) (global : Option TimerId) (owned : List TimerId)
    (attributed : Attributed entries global owned) (id : TimerId) :
    Attributed (entries.filter fun entry => entry.id != id) (global.filter (· != id)) (owned.filter (· != id)) := by
  have numbers (selects : Timer.Entry Task → Bool) :
      ((entries.filter fun entry => entry.id != id).filter selects).map Timer.Entry.id =
        ((entries.filter selects).map Timer.Entry.id).filter (· != id) := by
    rw [List.filter_map, List.filter_filter, List.filter_filter]
    refine congrArg _ (List.filter_congr fun entry _ => Bool.and_comm _ _)
  refine ⟨attributed.distinct.sublist (List.filter_sublist.map _), ?_, ?_⟩
  · rw [numbers, Option.toList_filter]
    exact attributed.passes.filter _
  · rw [numbers]
    exact attributed.others.filter _

theorem forget_unknown (owned : List TimerId) (id : TimerId) (absent : id ∉ owned) : owned.filter (· != id) = owned := by
  refine List.filter_eq_self.mpr fun other member => ?_
  rw [bne_iff_ne]
  rintro rfl
  exact absent member

-- The entries of a batch that are still to be handled are remembered like those in the queue.
structure Accountable (formatter : Formatter) (working : List (Timer.Entry Task)) : Prop where
  consistent : formatter.timers.Consistent
  attributed : Attributed (working ++ formatter.timers.entries) formatter.global formatter.owned
  used : ∀ entry ∈ working, entry.id < formatter.timers.nextId

theorem start_accountable (settleDelay : Time) : (withDelay settleDelay).Accountable [] :=
  ⟨Timer.empty_consistent, ⟨.nil, .nil, .nil⟩, fun _ member => nomatch member⟩

theorem next_unused (formatter : Formatter) (working : List (Timer.Entry Task))
    (accountable : formatter.Accountable working) :
    formatter.timers.nextId ∉ (working ++ formatter.timers.entries).map Timer.Entry.id := by
  intro member
  obtain ⟨entry, listed, same⟩ := List.mem_map.mp member
  rcases List.mem_append.mp listed with taken | queued
  · exact Nat.ne_of_lt (accountable.used entry taken) same
  · exact Nat.ne_of_lt (accountable.consistent.ordered.fresh entry queued) same

theorem pending_attributed (formatter : Formatter) (accountable : formatter.Accountable []) (id : TimerId) :
    formatter.timers.isPending id ↔ formatter.global = some id ∨ id ∈ formatter.owned := by
  have pending := attributed_pending _ _ _ accountable.attributed
  rw [Timer.pending_iff _ accountable.consistent, ← Option.mem_toList, ← List.mem_append]
  exact pending.symm.mem_iff

theorem own_accountable (formatter : Formatter) (working : List (Timer.Entry Task)) (now delay : Time) (task : Task)
    (accountable : formatter.Accountable working) (other : task ≠ .globalPass) :
    (formatter.own now delay task).1.Accountable working := by
  refine ⟨Timer.schedule_consistent _ now delay task accountable.consistent, ?_, ?_⟩
  · have owns := attributed_owns _ _ _ accountable.attributed ⟨now + delay, formatter.timers.nextId, task⟩ other
      (next_unused formatter working accountable)
    refine attributed_perm _ _ _ _ owns ?_
    exact List.perm_middle.symm.trans ((Timer.schedule_perm formatter.timers now delay task).symm.append_left working)
  · exact fun entry member => Nat.lt_succ_of_lt (accountable.used entry member)

theorem run_pass_accountable (formatter : Formatter) (working : List (Timer.Entry Task)) (results : Results)
    (now : Time) (scope : Option ContainerId) (accountable : formatter.Accountable working) :
    (formatter.runPass results now scope).formatter.Accountable working := by
  refine List.foldlRecOn (motive := fun pass : Pass => pass.formatter.Accountable working) _ _ accountable ?_
  intro pass before id _
  unfold Pass.visit
  split
  · exact before
  · exact own_accountable _ working now 0 (.measure id) before (by simp)

-- Both owners may forget the number of what is handled: only one of them has it.
theorem handle_accountable (formatter : Formatter) (results : Results) (now : Time) (due : Timer.Entry Task)
    (later : List (Timer.Entry Task)) (accountable : formatter.Accountable (due :: later)) :
    (formatter.handle results now due).1.Accountable later := by
  have attributed := accountable.attributed
  have used : ∀ entry ∈ later, entry.id < formatter.timers.nextId :=
    fun entry member => accountable.used entry (List.mem_cons_of_mem due member)
  have rest : Attributed (later ++ formatter.timers.entries) (formatter.global.filter (· != due.id))
      (formatter.owned.filter (· != due.id)) := by
    have without := attributed_without _ _ _ attributed due.id
    obtain ⟨unique, _⟩ := List.nodup_cons.mp attributed.distinct
    rw [List.cons_append, List.filter_cons_of_neg (by simp), List.filter_eq_self.mpr] at without
    · exact without
    · intro entry member
      rw [bne_iff_ne]
      intro same
      exact unique (same ▸ List.mem_map_of_mem member)
  have remembered : due ∈ due :: later ++ formatter.timers.entries := List.mem_cons_self
  have globalKept (other : due.task ≠ .globalPass) : formatter.global.filter (· != due.id) = formatter.global := by
    cases named : formatter.global with
    | none => rfl
    | some id =>
        rw [Option.filter_some_pos]
        rw [bne_iff_ne]
        rintro rfl
        exact global_not_owned _ _ _ attributed _ named (owned_entry _ _ _ attributed due remembered other)
  unfold handle
  split
  · rename_i task
    have named := global_entry _ _ _ attributed due remembered task
    have spared := forget_unknown _ _ (global_not_owned _ _ _ attributed due.id named)
    refine run_pass_accountable _ later results now none ⟨?_, ?_, ?_⟩
    all_goals rw [if_pos named]
    · exact accountable.consistent
    · rw [spared, named, Option.filter_some_neg (by simp)] at rest
      exact rest
    · exact used
  · rename_i container task
    refine run_pass_accountable _ later results now (some container) ⟨accountable.consistent, ?_, used⟩
    rw [globalKept (by rw [task]; simp)] at rest
    exact rest
  · rename_i field task
    refine ⟨accountable.consistent, ?_, used⟩
    rw [globalKept (by rw [task]; simp)] at rest
    exact rest

theorem handle_all_accountable (now : Time) (due : List (Timer.Entry Task)) (formatter : Formatter)
    (results : Results) (accountable : formatter.Accountable due) :
    (handleAll now due formatter results).1.Accountable [] := by
  induction due generalizing formatter results with
  | nil => exact accountable
  | cons entry later ih => exact ih _ _ (handle_accountable formatter results now entry later accountable)

theorem tick_accountable (formatter : Formatter) (results : Results) (now : Time)
    (accountable : formatter.Accountable []) : (formatter.tick results now).1.1.Accountable [] := by
  refine handle_all_accountable now (formatter.takeDue now).2 (formatter.takeDue now).1 results ⟨?_, ?_, ?_⟩
  · exact Timer.take_due_consistent formatter.timers now accountable.consistent
  · rw [tick_partition formatter now]
    exact accountable.attributed
  · intro entry member
    refine accountable.consistent.ordered.fresh entry ?_
    rw [← tick_partition formatter now]
    exact List.mem_append_left _ member

theorem cancel_global_accountable (formatter : Formatter) (accountable : formatter.Accountable []) :
    formatter.cancelGlobal.Accountable [] ∧ formatter.cancelGlobal.global = none := by
  unfold cancelGlobal
  cases named : formatter.global with
  | none => exact ⟨accountable, named⟩
  | some timer =>
      have attributed := accountable.attributed
      have spared := forget_unknown _ _ (global_not_owned _ _ _ attributed timer named)
      have without := attributed_without _ _ _ attributed timer
      rw [spared, named, Option.filter_some_neg (by simp)] at without
      refine ⟨⟨Timer.cancel_consistent _ timer accountable.consistent, ?_, fun _ member => nomatch member⟩, rfl⟩
      dsimp only
      rw [(Timer.cancel_entries _ accountable.consistent timer).1]
      exact without

theorem request_accountable (formatter : Formatter) (now : Time) (scope : Option ContainerId)
    (accountable : formatter.Accountable []) : (formatter.request now scope).1.Accountable [] := by
  cases scope with
  | none =>
      obtain ⟨ground, free⟩ := cancel_global_accountable formatter accountable
      refine ⟨Timer.schedule_consistent _ _ _ _ ground.consistent, ?_, fun _ member => nomatch member⟩
      have attributed := ground.attributed
      rw [free] at attributed
      have names := attributed_names _ _ attributed ⟨now + formatter.cancelGlobal.settleDelay, _, .globalPass⟩ rfl
        (next_unused _ [] ground)
      exact attributed_perm _ _ _ _ names (Timer.schedule_perm _ _ _ _).symm
  | some container =>
      exact own_accountable formatter [] now formatter.settleDelay (.containerPass container) accountable (by simp)

theorem request_each_accountable (formatter : Formatter) (now : Time) (containers : List ContainerId)
    (accountable : formatter.Accountable []) : (formatter.requestEach now containers).Accountable [] := by
  refine List.foldlRecOn (motive := fun after : Formatter => after.Accountable []) containers _ accountable ?_
  intro after before container _
  exact request_accountable after now (some container) before

theorem cancel_all (ids : List TimerId) (queue : Timer.Queue Task) (consistent : queue.Consistent) :
    (ids.foldl (fun timers timer => (timers.cancel timer).1) queue).Consistent ∧
      (ids.foldl (fun timers timer => (timers.cancel timer).1) queue).entries =
        queue.entries.filter fun entry => !ids.contains entry.id := by
  induction ids generalizing queue with
  | nil => exact ⟨consistent, (List.filter_eq_self.mpr fun _ _ => rfl).symm⟩
  | cons id rest ih =>
      obtain ⟨restConsistent, entries⟩ := ih _ (Timer.cancel_consistent queue id consistent)
      refine ⟨restConsistent, entries.trans ?_⟩
      rw [(Timer.cancel_entries queue consistent id).1, List.filter_filter]
      refine List.filter_congr fun entry _ => ?_
      rw [List.contains_cons, Bool.not_or, Bool.and_comm]
      rfl

-- What is remembered is all there is, and all of it is cancelled.
theorem dispose_empties (formatter : Formatter) (accountable : formatter.Accountable []) :
    formatter.dispose.timers.entries = [] ∧ formatter.dispose.Accountable [] ∧ formatter.dispose.global = none ∧
      formatter.dispose.owned = [] := by
  obtain ⟨ground, free⟩ := cancel_global_accountable formatter accountable
  obtain ⟨consistent, entries⟩ := cancel_all formatter.cancelGlobal.owned _ ground.consistent
  have attributed := ground.attributed
  have emptied : formatter.dispose.timers.entries = [] := by
    refine entries.trans (List.filter_eq_nil_iff.mpr fun entry member => ?_)
    have other : entry.task ≠ .globalPass := by
      intro task
      have named := global_entry _ _ _ attributed entry member task
      rw [free] at named
      cases named
    simpa using owned_entry _ _ _ attributed entry member other
  refine ⟨emptied, ⟨consistent, ?_, fun _ member => nomatch member⟩, free, rfl⟩
  have unnamed : formatter.dispose.global = none := free
  rw [emptied, unnamed]
  exact ⟨.nil, .nil, .nil⟩

end ChainExplorer.Formatter
