import ChainExplorer.Timer.Queue

set_option autoImplicit false

namespace ChainExplorer.Timer

variable {α : Type}

theorem before_iff (a b : Entry α) :
    a.before b ↔ a.deadline < b.deadline ∨ (a.deadline = b.deadline ∧ a.id < b.id) := by
  simp [Entry.before]

theorem before_trans (a b c : Entry α) (first : a.before b) (second : b.before c) : a.before c := by
  rw [before_iff] at *
  lia

theorem before_asymm (a b : Entry α) (first : a.before b) : ¬ b.before a := by
  rw [before_iff] at *
  lia

theorem before_or_before (a b : Entry α) (different : a.id ≠ b.id) (notBefore : ¬ a.before b) : b.before a := by
  rw [before_iff] at *
  lia

theorem before_deadline (a b : Entry α) (first : a.before b) : a.deadline ≤ b.deadline := by
  rw [before_iff] at first
  lia

theorem mem_insert_entry (entry other : Entry α) (entries : List (Entry α)) :
    other ∈ insertEntry entry entries ↔ other = entry ∨ other ∈ entries := by
  induction entries with
  | nil => simp [insertEntry]
  | cons head rest ih =>
      by_cases first : entry.before head
      · simp [insertEntry, first]
      · rw [insertEntry, if_neg first, List.mem_cons, List.mem_cons, ih]
        exact or_left_comm

theorem insert_entry_sorted (entry : Entry α) (entries : List (Entry α))
    (sorted : entries.Pairwise fun a b => a.before b) (different : ∀ other ∈ entries, entry.id ≠ other.id) :
    (insertEntry entry entries).Pairwise fun a b => a.before b := by
  induction entries with
  | nil => simp [insertEntry]
  | cons head rest ih =>
      obtain ⟨least, restSorted⟩ := List.pairwise_cons.mp sorted
      by_cases first : entry.before head
      · rw [insertEntry, if_pos first]
        refine List.pairwise_cons.mpr ⟨?_, sorted⟩
        intro other member
        rcases List.mem_cons.mp member with same | later
        · exact same ▸ first
        · exact before_trans entry head other first (least other later)
      · rw [insertEntry, if_neg first]
        refine List.pairwise_cons.mpr ⟨?_, ih restSorted fun other member => different other (by simp [member])⟩
        intro other member
        rcases (mem_insert_entry entry other rest).mp member with same | later
        · exact same ▸ before_or_before entry head (different head (by simp)) first
        · exact least other later

structure Queue.Ordered (queue : Queue α) : Prop where
  sorted : queue.entries.Pairwise fun a b => a.before b
  fresh : ∀ entry ∈ queue.entries, entry.id < queue.nextId

theorem empty_ordered : (Queue.empty : Queue α).Ordered :=
  ⟨.nil, fun _ member => nomatch member⟩

theorem mem_schedule (queue : Queue α) (now delay : Time) (task : α) (entry : Entry α) :
    entry ∈ (queue.schedule now delay task).1.entries ↔
      entry = ⟨now + delay, queue.nextId, task⟩ ∨ entry ∈ queue.entries :=
  mem_insert_entry _ _ _

theorem schedule_ordered (queue : Queue α) (now delay : Time) (task : α) (ordered : queue.Ordered) :
    (queue.schedule now delay task).1.Ordered := by
  constructor
  · refine insert_entry_sorted _ _ ordered.sorted ?_
    intro other member
    exact Nat.ne_of_gt (ordered.fresh other member)
  · intro entry member
    rcases (mem_schedule queue now delay task entry).mp member with same | before
    · subst same
      exact Nat.lt_succ_self _
    · exact Nat.lt_succ_of_lt (ordered.fresh entry before)

theorem cancel_sublist (queue : Queue α) (timer : TimerId) :
    (queue.cancel timer).1.entries.Sublist queue.entries ∧ (queue.cancel timer).1.nextId = queue.nextId := by
  unfold Queue.cancel
  cases queue.deadlines.lookup timer with
  | none => exact ⟨List.Sublist.refl _, rfl⟩
  | some deadline => exact ⟨List.filter_sublist, rfl⟩

theorem fewer_ordered (before after : Queue α) (ordered : before.Ordered)
    (kept : after.entries.Sublist before.entries) (next : after.nextId = before.nextId) : after.Ordered :=
  ⟨ordered.sorted.sublist kept, fun entry member => next ▸ ordered.fresh entry (kept.subset member)⟩

theorem take_due_partition (queue : Queue α) (now : Time) :
    (queue.takeDue now).2 ++ (queue.takeDue now).1.entries = queue.entries :=
  List.takeWhile_append_dropWhile

theorem take_due_ordered (queue : Queue α) (now : Time) (ordered : queue.Ordered) :
    (queue.takeDue now).1.Ordered :=
  fewer_ordered queue _ ordered (List.dropWhile_sublist _) rfl

theorem drop_while_later (now : Time) (entries : List (Entry α))
    (sorted : entries.Pairwise fun a b => a.before b) :
    ∀ entry ∈ entries.dropWhile (fun entry => entry.deadline ≤ now), now < entry.deadline := by
  induction entries with
  | nil => simp
  | cons head rest ih =>
      obtain ⟨least, restSorted⟩ := List.pairwise_cons.mp sorted
      by_cases due : head.deadline ≤ now
      · simpa [List.dropWhile_cons, due] using ih restSorted
      · intro entry member
        rw [List.dropWhile_cons, if_neg (by simpa using due)] at member
        rcases List.mem_cons.mp member with same | later
        · subst same
          lia
        · have after := before_deadline head entry (least entry later)
          lia

theorem take_due_left (queue : Queue α) (now : Time) (ordered : queue.Ordered) (entry : Entry α)
    (member : entry ∈ (queue.takeDue now).1.entries) : now < entry.deadline :=
  drop_while_later now queue.entries ordered.sorted entry member

end ChainExplorer.Timer
