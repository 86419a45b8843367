import ChainExplorer.Proofs.Timer.Order
import Mathlib.Data.List.Nodup

set_option autoImplicit false

namespace ChainExplorer

-- What is found under a key once only some keys are kept.
theorem lookup_filter {Key Content : Type} [BEq Key] [LawfulBEq Key] (keep : Key → Bool) (known : List (Key × Content))
    (key : Key) : (known.filter fun pair => keep pair.1).lookup key = if keep key then known.lookup key else none := by
  induction known with
  | nil => simp
  | cons pair rest ih =>
      obtain ⟨other, content⟩ := pair
      rw [List.filter_cons, List.lookup_cons]
      by_cases same : key = other
      · subst same
        cases kept : keep key <;> simp [kept, ih]
      · rw [beq_false_of_ne same]
        cases keep other <;> simp [List.lookup_cons, beq_false_of_ne same, ih]

end ChainExplorer

namespace ChainExplorer.Timer

variable {α : Type}

-- The index knows the deadline of every entry and of nothing else.
structure Queue.Consistent (queue : Queue α) : Prop where
  ordered : queue.Ordered
  indexed : ∀ id deadline, queue.deadlines.lookup id = some deadline ↔
    ∃ entry ∈ queue.entries, entry.id = id ∧ entry.deadline = deadline

theorem empty_consistent : (Queue.empty : Queue α).Consistent := by
  refine ⟨empty_ordered, fun id deadline => ⟨fun found => ?_, ?_⟩⟩
  · cases found
  · rintro ⟨_, impossible, _⟩
    cases impossible

theorem numbers_distinct (queue : Queue α) (consistent : queue.Consistent) :
    (queue.entries.map Entry.id).Nodup := by
  rw [List.Nodup, List.pairwise_map]
  refine consistent.ordered.sorted.imp_of_mem fun {a b} first second before same => ?_
  have known := (consistent.indexed a.id a.deadline).mpr ⟨a, first, rfl, rfl⟩
  rw [(consistent.indexed a.id b.deadline).mpr ⟨b, second, same.symm, rfl⟩] at known
  have deadline : b.deadline = a.deadline := Option.some.inj known
  rw [before_iff] at before
  lia

theorem same_entry (queue : Queue α) (consistent : queue.Consistent) (a b : Entry α) (first : a ∈ queue.entries)
    (second : b ∈ queue.entries) (same : a.id = b.id) : a = b :=
  List.inj_on_of_nodup_map (numbers_distinct queue consistent) first second same

theorem pending_iff (queue : Queue α) (consistent : queue.Consistent) (id : TimerId) :
    queue.isPending id ↔ id ∈ queue.entries.map Entry.id := by
  unfold Queue.isPending
  rw [Option.isSome_iff_exists, List.mem_map]
  simp only [consistent.indexed]
  constructor
  · rintro ⟨_, entry, member, same, _⟩
    exact ⟨entry, member, same⟩
  · rintro ⟨entry, member, same⟩
    exact ⟨entry.deadline, entry, member, same, rfl⟩

theorem insert_entry_perm (entry : Entry α) (entries : List (Entry α)) :
    (insertEntry entry entries).Perm (entry :: entries) := by
  induction entries with
  | nil => exact List.Perm.refl _
  | cons head rest ih =>
      by_cases first : entry.before head
      · rw [insertEntry, if_pos first]
      · rw [insertEntry, if_neg first]
        exact (ih.cons head).trans (List.Perm.swap entry head rest)

theorem insert_entry_sublist (entry : Entry α) (entries : List (Entry α)) :
    entries.Sublist (insertEntry entry entries) := by
  induction entries with
  | nil => exact List.nil_sublist _
  | cons head rest ih =>
      by_cases first : entry.before head
      · rw [insertEntry, if_pos first]
        exact List.sublist_cons_self _ _
      · rw [insertEntry, if_neg first]
        exact ih.cons_cons head

theorem schedule_perm (queue : Queue α) (now delay : Time) (task : α) :
    (queue.schedule now delay task).1.entries.Perm (⟨now + delay, queue.nextId, task⟩ :: queue.entries) :=
  insert_entry_perm _ _

theorem schedule_consistent (queue : Queue α) (now delay : Time) (task : α) (consistent : queue.Consistent) :
    (queue.schedule now delay task).1.Consistent := by
  refine ⟨schedule_ordered queue now delay task consistent.ordered, ?_⟩
  intro id deadline
  have index : (queue.schedule now delay task).1.deadlines = (queue.nextId, now + delay) :: queue.deadlines := rfl
  simp only [index, mem_schedule, List.lookup_cons]
  by_cases new : id = queue.nextId
  · subst new
    simp only [BEq.rfl, Option.some.injEq]
    constructor
    · intro same
      exact ⟨_, .inl rfl, rfl, same⟩
    · rintro ⟨entry, rfl | old, number, same⟩
      · exact same
      · exact absurd number (Nat.ne_of_lt (consistent.ordered.fresh entry old))
  · rw [beq_false_of_ne new]
    simp only [consistent.indexed]
    constructor
    · rintro ⟨entry, old, facts⟩
      exact ⟨entry, .inr old, facts⟩
    · rintro ⟨entry, rfl | old, number, same⟩
      · exact absurd number.symm new
      · exact ⟨entry, old, number, same⟩

-- A number stands for one entry, so the deadline by which that entry is found tells nothing more.
theorem cancel_entries (queue : Queue α) (consistent : queue.Consistent) (id : TimerId) :
    (queue.cancel id).1.entries = queue.entries.filter (fun entry => entry.id != id) ∧
      (queue.cancel id).2 = queue.entries.any (fun entry => entry.id == id) := by
  unfold Queue.cancel
  cases found : queue.deadlines.lookup id with
  | none =>
      have absent : ∀ entry ∈ queue.entries, entry.id ≠ id := by
        intro entry member same
        have known := (consistent.indexed id entry.deadline).mpr ⟨entry, member, same, rfl⟩
        rw [found] at known
        cases known
      refine ⟨(List.filter_eq_self.mpr fun entry member => ?_).symm, (List.any_eq_false.mpr fun entry member => ?_).symm⟩
      · simpa using absent entry member
      · simpa using absent entry member
  | some deadline =>
      have told : ∀ entry ∈ queue.entries, (entry.deadline == deadline && entry.id == id) = (entry.id == id) := by
        intro entry member
        by_cases same : entry.id = id
        · have known := (consistent.indexed id entry.deadline).mpr ⟨entry, member, same, rfl⟩
          rw [found] at known
          simp [Option.some.inj known, same]
        · simp [same]
      refine ⟨List.filter_congr fun entry member => congrArg not (told entry member), Bool.eq_iff_iff.mpr ?_⟩
      rw [List.any_eq_true, List.any_eq_true]
      exact exists_congr fun entry => and_congr_right fun member => iff_of_eq (congrArg (· = true) (told entry member))

theorem cancel_index (queue : Queue α) (id other : TimerId) :
    (queue.cancel id).1.deadlines.lookup other = if other = id then none else queue.deadlines.lookup other := by
  unfold Queue.cancel
  cases found : queue.deadlines.lookup id with
  | none =>
      by_cases same : other = id
      · rw [if_pos same, same, found]
      · rw [if_neg same]
  | some deadline =>
      dsimp only
      rw [lookup_filter (· != id)]
      by_cases same : other = id <;> simp [same]

theorem cancel_consistent (queue : Queue α) (id : TimerId) (consistent : queue.Consistent) :
    (queue.cancel id).1.Consistent := by
  obtain ⟨kept, next⟩ := cancel_sublist queue id
  refine ⟨fewer_ordered queue _ consistent.ordered kept next, ?_⟩
  intro other deadline
  rw [cancel_index, (cancel_entries queue consistent id).1]
  by_cases same : other = id
  · simp +contextual [same]
  · rw [if_neg same, consistent.indexed]
    refine exists_congr fun entry => ?_
    rw [List.mem_filter, and_assoc]
    refine and_congr_right fun _ => (and_iff_right_of_imp ?_).symm
    rintro ⟨number, _⟩
    simpa [number] using same

theorem take_due_split (queue : Queue α) (now : Time) (ordered : queue.Ordered) :
    (queue.takeDue now).2 = queue.entries.filter (fun entry => entry.deadline ≤ now) ∧
      (queue.takeDue now).1.entries = queue.entries.filter (fun entry => now < entry.deadline) := by
  have due : ∀ entry ∈ (queue.takeDue now).2, entry.deadline ≤ now := by
    intro entry member
    simpa using List.all_eq_true.mp List.all_takeWhile entry member
  have left := take_due_left queue now ordered
  rw [← take_due_partition queue now, List.filter_append, List.filter_append]
  constructor
  · rw [List.filter_eq_self.mpr (by simpa using due), List.filter_eq_nil_iff.mpr (by simpa using left), List.append_nil]
  · rw [List.filter_eq_nil_iff.mpr (by simpa using due), List.filter_eq_self.mpr (by simpa using left), List.nil_append]

theorem take_due_consistent (queue : Queue α) (now : Time) (consistent : queue.Consistent) :
    (queue.takeDue now).1.Consistent := by
  refine ⟨take_due_ordered queue now consistent.ordered, ?_⟩
  intro id deadline
  obtain ⟨due, left⟩ := take_due_split queue now consistent.ordered
  have index : (queue.takeDue now).1.deadlines = queue.deadlines.filter fun known =>
      !((queue.entries.filter fun entry => entry.deadline ≤ now).any fun entry => entry.id == known.1) := due ▸ rfl
  rw [index, lookup_filter fun number =>
    !((queue.entries.filter fun entry => entry.deadline ≤ now).any fun entry => entry.id == number), left]
  constructor
  · intro found
    split at found
    · rename_i waits
      obtain ⟨entry, member, number, same⟩ := (consistent.indexed id deadline).mp found
      refine ⟨entry, List.mem_filter.mpr ⟨member, ?_⟩, number, same⟩
      by_contra reached
      simp only [Bool.not_eq_true', List.any_eq_false, List.mem_filter] at waits
      exact waits entry ⟨member, by simpa using reached⟩ (by simpa using number)
    · cases found
  · rintro ⟨entry, member, number, same⟩
    obtain ⟨here, later⟩ := List.mem_filter.mp member
    rw [if_pos, (consistent.indexed id deadline).mpr ⟨entry, here, number, same⟩]
    simp only [Bool.not_eq_true', List.any_eq_false, List.mem_filter]
    rintro other ⟨there, reached⟩ alike
    have one := same_entry queue consistent other entry there here ((by simpa using alike : other.id = id).trans number.symm)
    simp only [one, decide_eq_true_eq] at reached later
    lia

end ChainExplorer.Timer
