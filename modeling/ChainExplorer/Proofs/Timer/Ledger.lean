import ChainExplorer.Proofs.Timer.Index
import Mathlib.Data.List.Induction

set_option autoImplicit false

namespace ChainExplorer.Timer

variable {α : Type}

structure Ledger (α : Type) where
  next : TimerId
  -- What is pending, in the order in which it was scheduled.
  pending : List (Entry α)

namespace Ledger

def empty : Ledger α := ⟨0, []⟩

def schedule (ledger : Ledger α) (now delay : Time) (task : α) : Ledger α × TimerId :=
  (⟨ledger.next + 1, ledger.pending ++ [⟨now + delay, ledger.next, task⟩]⟩, ledger.next)

def cancel (ledger : Ledger α) (id : TimerId) : Ledger α × Bool :=
  ({ ledger with pending := ledger.pending.filter fun entry => entry.id != id },
   ledger.pending.any fun entry => entry.id == id)

-- The sort is stable: of two with one deadline, the one scheduled first stays first.
def takeDue (ledger : Ledger α) (now : Time) : Ledger α × List (Entry α) :=
  ({ ledger with pending := ledger.pending.filter fun entry => now < entry.deadline },
   (ledger.pending.filter fun entry => entry.deadline ≤ now).mergeSort fun a b => a.deadline ≤ b.deadline)

end Ledger

-- The oldest entry goes before the first that is due no earlier. Those it passes are due earlier, and those it
-- precedes are younger.
theorem stable_sort (entries : List (Entry α)) (increasing : entries.Pairwise fun a b => a.id < b.id) :
    (entries.mergeSort fun a b => a.deadline ≤ b.deadline).Pairwise fun a b => a.before b := by
  have transitive (a b c : Entry α) (first : decide (a.deadline ≤ b.deadline)) (second : decide (b.deadline ≤ c.deadline)) :
      decide (a.deadline ≤ c.deadline) := by
    simp only [decide_eq_true_eq] at *
    exact Nat.le_trans first second
  have total (a b : Entry α) : decide (a.deadline ≤ b.deadline) || decide (b.deadline ≤ a.deadline) := by
    simpa using Nat.le_total a.deadline b.deadline
  induction entries with
  | nil => simp
  | cons head rest ih =>
      obtain ⟨oldest, restIncreasing⟩ := List.pairwise_cons.mp increasing
      obtain ⟨before, after, whole, part, earlier⟩ := List.mergeSort_cons transitive total head rest
      have sorted := List.pairwise_mergeSort transitive total (head :: rest)
      have ordered := ih restIncreasing
      rw [whole] at sorted ⊢
      rw [part] at ordered
      obtain ⟨front, back, across⟩ := List.pairwise_append.mp ordered
      have members (entry : Entry α) : entry ∈ before ++ after ↔ entry ∈ rest := by
        rw [← part, List.mem_mergeSort]
      refine List.pairwise_append.mpr ⟨front, List.pairwise_cons.mpr ⟨?_, back⟩, ?_⟩
      · intro entry member
        have later := (List.pairwise_cons.mp (List.pairwise_append.mp sorted).2.1).1 entry member
        have younger := oldest entry ((members entry).mp (List.mem_append_right before member))
        rw [decide_eq_true_eq] at later
        rw [before_iff]
        lia
      · intro first member second there
        rcases List.mem_cons.mp there with same | other
        · subst same
          have less := earlier first member
          rw [before_iff]
          simp at less
          exact .inl less
        · exact across first member second other

-- The queue holds what the ledger lists.
structure Keeps (queue : Queue α) (ledger : Ledger α) : Prop where
  consistent : queue.Consistent
  next : queue.nextId = ledger.next
  entries : queue.entries.Perm ledger.pending
  increasing : ledger.pending.Pairwise fun a b => a.id < b.id

theorem empty_keeps : Keeps (Queue.empty : Queue α) .empty := ⟨empty_consistent, rfl, .nil, .nil⟩

theorem schedule_keeps (queue : Queue α) (ledger : Ledger α) (keeps : Keeps queue ledger) (now delay : Time) (task : α) :
    Keeps (queue.schedule now delay task).1 (ledger.schedule now delay task).1 ∧
      (queue.schedule now delay task).2 = (ledger.schedule now delay task).2 := by
  refine ⟨⟨schedule_consistent queue now delay task keeps.consistent, congrArg (· + 1) keeps.next, ?_, ?_⟩, keeps.next⟩
  · refine (schedule_perm queue now delay task).trans ?_
    unfold Ledger.schedule
    rw [← keeps.next]
    exact (keeps.entries.cons _).trans (List.perm_append_singleton _ _).symm
  · refine List.pairwise_append.mpr ⟨keeps.increasing, List.pairwise_singleton _ _, ?_⟩
    intro entry member last added
    rw [List.mem_singleton.mp added, ← keeps.next]
    exact keeps.consistent.ordered.fresh entry (keeps.entries.mem_iff.mpr member)

theorem cancel_keeps (queue : Queue α) (ledger : Ledger α) (keeps : Keeps queue ledger) (id : TimerId) :
    Keeps (queue.cancel id).1 (ledger.cancel id).1 ∧ (queue.cancel id).2 = (ledger.cancel id).2 := by
  obtain ⟨entries, told⟩ := cancel_entries queue keeps.consistent id
  refine ⟨⟨cancel_consistent queue id keeps.consistent, (cancel_sublist queue id).2.trans keeps.next, ?_, ?_⟩, ?_⟩
  · rw [entries]
    exact keeps.entries.filter _
  · exact keeps.increasing.sublist List.filter_sublist
  · exact told.trans keeps.entries.any_eq

theorem take_due_keeps (queue : Queue α) (ledger : Ledger α) (keeps : Keeps queue ledger) (now : Time) :
    Keeps (queue.takeDue now).1 (ledger.takeDue now).1 ∧ (queue.takeDue now).2 = (ledger.takeDue now).2 := by
  obtain ⟨due, left⟩ := take_due_split queue now keeps.consistent.ordered
  refine ⟨⟨take_due_consistent queue now keeps.consistent, keeps.next, ?_, ?_⟩, ?_⟩
  · rw [left]
    exact keeps.entries.filter _
  · exact keeps.increasing.sublist List.filter_sublist
  · have sorted : (queue.takeDue now).2.Pairwise fun a b => a.before b :=
      keeps.consistent.ordered.sorted.sublist (List.takeWhile_sublist _)
    have stable := stable_sort _ (keeps.increasing.sublist (List.filter_sublist (p := fun entry => entry.deadline ≤ now)))
    refine List.Perm.eq_of_pairwise ?_ sorted stable ?_
    · intro a b _ _ first second
      exact absurd second (before_asymm a b first)
    · rw [due]
      exact (keeps.entries.filter _).trans (List.mergeSort_perm _ _).symm

inductive Call (α : Type) where
  | schedule (now delay : Time) (task : α)
  | cancel (id : TimerId)
  | takeDue (now : Time)

inductive Answer (α : Type) where
  | number (id : TimerId)
  | cancelled (done : Bool)
  | due (entries : List (Entry α))

def Queue.serve (queue : Queue α) : Call α → Queue α × Answer α
  | .schedule now delay task => ((queue.schedule now delay task).1, .number (queue.schedule now delay task).2)
  | .cancel id => ((queue.cancel id).1, .cancelled (queue.cancel id).2)
  | .takeDue now => ((queue.takeDue now).1, .due (queue.takeDue now).2)

def Ledger.serve (ledger : Ledger α) : Call α → Ledger α × Answer α
  | .schedule now delay task => ((ledger.schedule now delay task).1, .number (ledger.schedule now delay task).2)
  | .cancel id => ((ledger.cancel id).1, .cancelled (ledger.cancel id).2)
  | .takeDue now => ((ledger.takeDue now).1, .due (ledger.takeDue now).2)

-- Calls and their answers, oldest first.
abbrev Log (α : Type) := List (Call α × Answer α)

def serveAll {Store : Type} (serve : Store → Call α → Store × Answer α) (start : Store) (calls : List (Call α)) :
    Store × Log α :=
  calls.foldl (fun (store, log) call => ((serve store call).1, log ++ [(call, (serve store call).2)])) (start, [])

theorem serve_keeps (queue : Queue α) (ledger : Ledger α) (keeps : Keeps queue ledger) (call : Call α) :
    Keeps (queue.serve call).1 (ledger.serve call).1 ∧ (queue.serve call).2 = (ledger.serve call).2 := by
  cases call with
  | schedule now delay task =>
      obtain ⟨kept, same⟩ := schedule_keeps queue ledger keeps now delay task
      exact ⟨kept, congrArg Answer.number same⟩
  | cancel id =>
      obtain ⟨kept, same⟩ := cancel_keeps queue ledger keeps id
      exact ⟨kept, congrArg Answer.cancelled same⟩
  | takeDue now =>
      obtain ⟨kept, same⟩ := take_due_keeps queue ledger keeps now
      exact ⟨kept, congrArg Answer.due same⟩

theorem serve_all_concat {Store : Type} (serve : Store → Call α → Store × Answer α) (start : Store)
    (calls : List (Call α)) (call : Call α) :
    serveAll serve start (calls ++ [call]) =
      ((serve (serveAll serve start calls).1 call).1,
        (serveAll serve start calls).2 ++ [(call, (serve (serveAll serve start calls).1 call).2)]) := by
  rw [serveAll, List.foldl_append]
  rfl

theorem serve_all_keeps (calls : List (Call α)) :
    Keeps (serveAll Queue.serve .empty calls).1 (serveAll Ledger.serve .empty calls).1 ∧
      (serveAll Queue.serve .empty calls).2 = (serveAll Ledger.serve .empty calls).2 := by
  induction calls using List.reverseRecOn with
  | nil => exact ⟨empty_keeps, rfl⟩
  | append_singleton calls call ih =>
      obtain ⟨keeps, sameLog⟩ := ih
      obtain ⟨kept, same⟩ := serve_keeps _ _ keeps call
      rw [serve_all_concat, serve_all_concat, sameLog, same]
      exact ⟨kept, rfl⟩

namespace Log

-- What was scheduled, under the numbers that were given out.
def made (log : Log α) : List (Entry α) :=
  log.filterMap fun
    | (.schedule now delay task, .number id) => some ⟨now + delay, id, task⟩
    | _ => none

def returned (log : Log α) : List (Entry α) :=
  log.flatMap fun
    | (_, .due entries) => entries
    | _ => []

-- The numbers of what was cancelled while it was pending.
def cancelled (log : Log α) : List TimerId :=
  log.filterMap fun
    | (.cancel id, .cancelled true) => some id
    | _ => none

theorem made_concat (log : Log α) (call : Call α) (answer : Answer α) :
    made (log ++ [(call, answer)]) = log.made ++ made [(call, answer)] :=
  List.filterMap_append

theorem returned_concat (log : Log α) (call : Call α) (answer : Answer α) :
    returned (log ++ [(call, answer)]) = log.returned ++ returned [(call, answer)] :=
  List.flatMap_append

theorem cancelled_concat (log : Log α) (call : Call α) (answer : Answer α) :
    cancelled (log ++ [(call, answer)]) = log.cancelled ++ cancelled [(call, answer)] :=
  List.filterMap_append

end Log

-- The log accounts for what the queue holds and for what it gave away.
structure Accounts (log : Log α) (queue : Queue α) : Prop where
  consistent : queue.Consistent
  numbered : log.made.map Entry.id = List.range queue.nextId
  pending : ∀ entry, entry ∈ queue.entries ↔
    entry ∈ log.made ∧ entry.id ∉ log.returned.map Entry.id ∧ entry.id ∉ log.cancelled
  genuine : ∀ entry ∈ log.returned, entry ∈ log.made
  once : (log.returned.map Entry.id).Nodup
  known : ∀ id ∈ log.cancelled, id < queue.nextId

theorem empty_accounts : Accounts ([] : Log α) .empty where
  consistent := empty_consistent
  numbered := rfl
  pending := by simp [Log.made, Queue.empty]
  genuine := by simp [Log.returned]
  once := List.nodup_nil
  known := by simp [Log.cancelled]

theorem made_number (log : Log α) (queue : Queue α) (accounts : Accounts log queue) (entry : Entry α)
    (member : entry ∈ log.made) : entry.id < queue.nextId := by
  rw [← List.mem_range, ← accounts.numbered]
  exact List.mem_map_of_mem member

theorem schedule_accounts (log : Log α) (queue : Queue α) (accounts : Accounts log queue) (now delay : Time) (task : α) :
    Accounts (log ++ [(.schedule now delay task, .number queue.nextId)]) (queue.schedule now delay task).1 := by
  have made : Log.made (log ++ [(.schedule now delay task, .number queue.nextId)]) =
      log.made ++ [⟨now + delay, queue.nextId, task⟩] := Log.made_concat _ _ _
  have returned : Log.returned (log ++ [(.schedule now delay task, .number queue.nextId)]) = log.returned :=
    (Log.returned_concat _ _ _).trans (List.append_nil _)
  have cancelled : Log.cancelled (log ++ [(.schedule now delay task, .number queue.nextId)]) = log.cancelled :=
    (Log.cancelled_concat _ _ _).trans (List.append_nil _)
  have unreturned : queue.nextId ∉ log.returned.map Entry.id := by
    intro member
    obtain ⟨entry, given, same⟩ := List.mem_map.mp member
    exact Nat.ne_of_lt (made_number log queue accounts entry (accounts.genuine entry given)) same
  have uncancelled : queue.nextId ∉ log.cancelled := fun member => Nat.lt_irrefl _ (accounts.known _ member)
  constructor
  · exact schedule_consistent queue now delay task accounts.consistent
  · rw [made, List.map_append, accounts.numbered]
    exact List.range_succ.symm
  · intro entry
    rw [mem_schedule, accounts.pending, made, returned, cancelled, List.mem_append, List.mem_singleton]
    constructor
    · rintro (rfl | ⟨before, waiting⟩)
      · exact ⟨.inr rfl, unreturned, uncancelled⟩
      · exact ⟨.inl before, waiting⟩
    · rintro ⟨before | new, waiting⟩
      · exact .inr ⟨before, waiting⟩
      · exact .inl new
  · intro entry member
    rw [returned] at member
    rw [made]
    exact List.mem_append_left _ (accounts.genuine entry member)
  · rw [returned]
    exact accounts.once
  · rw [cancelled]
    exact fun id member => Nat.lt_succ_of_lt (accounts.known id member)

theorem cancel_accounts (log : Log α) (queue : Queue α) (accounts : Accounts log queue) (id : TimerId) :
    Accounts (log ++ [(.cancel id, .cancelled (queue.cancel id).2)]) (queue.cancel id).1 := by
  obtain ⟨entries, told⟩ := cancel_entries queue accounts.consistent id
  have made : Log.made (log ++ [(.cancel id, .cancelled (queue.cancel id).2)]) = log.made :=
    (Log.made_concat _ _ _).trans (List.append_nil _)
  have returned : Log.returned (log ++ [(.cancel id, .cancelled (queue.cancel id).2)]) = log.returned :=
    (Log.returned_concat _ _ _).trans (List.append_nil _)
  have cancelled (other : TimerId) : other ∈ Log.cancelled (log ++ [(.cancel id, .cancelled (queue.cancel id).2)]) ↔
      other ∈ log.cancelled ∨ (other = id ∧ (queue.cancel id).2 = true) := by
    rw [Log.cancelled_concat, List.mem_append]
    cases (queue.cancel id).2 <;> simp [Log.cancelled]
  have next := (cancel_sublist queue id).2
  constructor
  · exact cancel_consistent queue id accounts.consistent
  · rw [made, next]
    exact accounts.numbered
  · intro entry
    rw [entries, List.mem_filter, made, returned, cancelled, accounts.pending, bne_iff_ne]
    constructor
    · rintro ⟨⟨scheduled, unreturned, uncancelled⟩, other⟩
      exact ⟨scheduled, unreturned, fun either => either.elim uncancelled fun here => other here.1⟩
    · rintro ⟨scheduled, unreturned, neither⟩
      have uncancelled := mt Or.inl neither
      refine ⟨⟨scheduled, unreturned, uncancelled⟩, fun here => neither (.inr ⟨here, ?_⟩)⟩
      have waiting := (accounts.pending entry).mpr ⟨scheduled, unreturned, uncancelled⟩
      rw [told]
      exact List.any_eq_true.mpr ⟨entry, waiting, beq_iff_eq.mpr here⟩
  · rw [made, returned]
    exact accounts.genuine
  · rw [returned]
    exact accounts.once
  · intro other member
    rw [next]
    rcases (cancelled other).mp member with before | ⟨same, done⟩
    · exact accounts.known other before
    · rw [told, List.any_eq_true] at done
      obtain ⟨entry, here, number⟩ := done
      rw [same, ← beq_iff_eq.mp number]
      exact accounts.consistent.ordered.fresh entry here

theorem take_due_accounts (log : Log α) (queue : Queue α) (accounts : Accounts log queue) (now : Time) :
    Accounts (log ++ [(.takeDue now, .due (queue.takeDue now).2)]) (queue.takeDue now).1 := by
  obtain ⟨due, left⟩ := take_due_split queue now accounts.consistent.ordered
  have made : Log.made (log ++ [(.takeDue now, .due (queue.takeDue now).2)]) = log.made :=
    (Log.made_concat _ _ _).trans (List.append_nil _)
  have returned : Log.returned (log ++ [(.takeDue now, .due (queue.takeDue now).2)]) =
      log.returned ++ (queue.takeDue now).2 :=
    (Log.returned_concat _ _ _).trans (congrArg (log.returned ++ ·) (List.append_nil _))
  have cancelled : Log.cancelled (log ++ [(.takeDue now, .due (queue.takeDue now).2)]) = log.cancelled :=
    (Log.cancelled_concat _ _ _).trans (List.append_nil _)
  have taken : ∀ entry ∈ (queue.takeDue now).2, entry ∈ queue.entries := by
    intro entry member
    rw [due] at member
    exact (List.mem_filter.mp member).1
  constructor
  · exact take_due_consistent queue now accounts.consistent
  · rw [made]
    exact accounts.numbered
  · intro entry
    rw [left, List.mem_filter, made, returned, cancelled, List.map_append, List.mem_append, decide_eq_true_eq]
    constructor
    · rintro ⟨waiting, later⟩
      obtain ⟨scheduled, unreturned, uncancelled⟩ := (accounts.pending entry).mp waiting
      refine ⟨scheduled, ?_, uncancelled⟩
      rintro (before | here)
      · exact unreturned before
      · obtain ⟨other, member, number⟩ := List.mem_map.mp here
        have same := same_entry queue accounts.consistent other entry (taken other member) waiting number
        rw [same, due, List.mem_filter, decide_eq_true_eq] at member
        lia
    · rintro ⟨scheduled, neither, uncancelled⟩
      have waiting := (accounts.pending entry).mpr ⟨scheduled, mt Or.inl neither, uncancelled⟩
      refine ⟨waiting, Nat.lt_of_not_le fun reached => neither (.inr (List.mem_map_of_mem ?_))⟩
      rw [due, List.mem_filter, decide_eq_true_eq]
      exact ⟨waiting, reached⟩
  · intro entry member
    rw [returned] at member
    rw [made]
    rcases List.mem_append.mp member with before | here
    · exact accounts.genuine entry before
    · exact ((accounts.pending entry).mp (taken entry here)).1
  · rw [returned, List.map_append, List.nodup_append]
    refine ⟨accounts.once, ?_, ?_⟩
    · rw [due]
      exact (numbers_distinct queue accounts.consistent).sublist (List.filter_sublist.map _)
    · intro id before other here same
      obtain ⟨entry, member, number⟩ := List.mem_map.mp here
      have waiting := ((accounts.pending entry).mp (taken entry member)).2.1
      rw [number, ← same] at waiting
      exact waiting before
  · rw [cancelled]
    exact accounts.known

theorem serve_all_accounts (calls : List (Call α)) :
    Accounts (serveAll Queue.serve .empty calls).2 (serveAll Queue.serve .empty calls).1 := by
  induction calls using List.reverseRecOn with
  | nil => exact empty_accounts
  | append_singleton calls call ih =>
      rw [serve_all_concat]
      cases call with
      | schedule now delay task => exact schedule_accounts _ _ ih now delay task
      | cancel id => exact cancel_accounts _ _ ih id
      | takeDue now => exact take_due_accounts _ _ ih now

-- What the queue has given away so far.
def Queue.Gave (queue : Queue α) (given : List (Entry α)) : Prop := ∃ log, Accounts log queue ∧ log.returned = given

theorem empty_gave : (Queue.empty : Queue α).Gave [] := ⟨[], empty_accounts, rfl⟩

theorem schedule_gave (queue : Queue α) (given : List (Entry α)) (gave : queue.Gave given) (now delay : Time) (task : α) :
    (queue.schedule now delay task).1.Gave given := by
  obtain ⟨log, accounts, returned⟩ := gave
  refine ⟨_, schedule_accounts log queue accounts now delay task, ?_⟩
  rw [Log.returned_concat, returned]
  exact List.append_nil _

theorem cancel_gave (queue : Queue α) (given : List (Entry α)) (gave : queue.Gave given) (id : TimerId) :
    (queue.cancel id).1.Gave given := by
  obtain ⟨log, accounts, returned⟩ := gave
  refine ⟨_, cancel_accounts log queue accounts id, ?_⟩
  rw [Log.returned_concat, returned]
  exact List.append_nil _

theorem take_due_gave (queue : Queue α) (given : List (Entry α)) (gave : queue.Gave given) (now : Time) :
    (queue.takeDue now).1.Gave (given ++ (queue.takeDue now).2) := by
  obtain ⟨log, accounts, returned⟩ := gave
  refine ⟨_, take_due_accounts log queue accounts now, ?_⟩
  rw [Log.returned_concat, returned]
  exact congrArg (given ++ ·) (List.append_nil _)

theorem gave_once (queue : Queue α) (given : List (Entry α)) (gave : queue.Gave given) :
    (given.map Entry.id).Nodup := by
  obtain ⟨log, accounts, rfl⟩ := gave
  exact accounts.once

theorem pending_open (log : Log α) (queue : Queue α) (accounts : Accounts log queue) (id : TimerId) :
    queue.isPending id ↔
      id ∈ log.made.map Entry.id ∧ id ∉ log.returned.map Entry.id ∧ id ∉ log.cancelled := by
  rw [pending_iff queue accounts.consistent, List.mem_map, List.mem_map]
  constructor
  · rintro ⟨entry, waiting, rfl⟩
    obtain ⟨scheduled, free⟩ := (accounts.pending entry).mp waiting
    exact ⟨⟨entry, scheduled, rfl⟩, free⟩
  · rintro ⟨⟨entry, scheduled, rfl⟩, free⟩
    exact ⟨entry, (accounts.pending entry).mpr ⟨scheduled, free⟩, rfl⟩

theorem cancel_told (queue : Queue α) (consistent : queue.Consistent) (id : TimerId) :
    (queue.cancel id).2 = queue.isPending id := by
  rw [(cancel_entries queue consistent id).2, Bool.eq_iff_iff, pending_iff queue consistent, List.any_eq_true,
    List.mem_map]
  exact exists_congr fun entry => and_congr_right fun _ => beq_iff_eq

theorem next_deadline_least (queue : Queue α) (ledger : Ledger α) (keeps : Keeps queue ledger) :
    queue.nextDeadline = (ledger.pending.map Entry.deadline).min? := by
  have same := keeps.entries
  unfold Queue.nextDeadline
  cases entries : queue.entries with
  | nil =>
      rw [entries] at same
      rw [List.nil_perm.mp same]
      rfl
  | cons head rest =>
      have sorted := keeps.consistent.ordered.sorted
      rw [entries] at same sorted
      refine (List.min?_eq_some_iff.mpr ⟨List.mem_map_of_mem (same.mem_iff.mp List.mem_cons_self), ?_⟩).symm
      intro deadline member
      obtain ⟨entry, listed, rfl⟩ := List.mem_map.mp member
      rcases List.mem_cons.mp (same.mem_iff.mpr listed) with first | later
      · exact Nat.le_of_eq (congrArg Entry.deadline first.symm)
      · exact before_deadline head entry ((List.pairwise_cons.mp sorted).1 entry later)

theorem queue_is_a_ledger (calls : List (Call α)) :
    let (queue, log) := serveAll Queue.serve (.empty : Queue α) calls
    let (ledger, told) := serveAll Ledger.serve (.empty : Ledger α) calls
    log = told ∧ queue.entries.Perm ledger.pending ∧
      queue.nextDeadline = (ledger.pending.map Entry.deadline).min? ∧
      queue.size = ledger.pending.length ∧ queue.isEmpty = ledger.pending.isEmpty ∧
      log.made.map Entry.id = List.range queue.nextId ∧
      (∀ id, (queue.isPending id ↔
          id ∈ log.made.map Entry.id ∧ id ∉ log.returned.map Entry.id ∧ id ∉ log.cancelled) ∧
        (queue.cancel id).2 = queue.isPending id) ∧
      (∀ entry ∈ log.returned, entry ∈ log.made) ∧ (log.returned.map Entry.id).Nodup ∧
      (∀ id deadline, queue.deadlines.lookup id = some deadline ↔
        ∃ entry ∈ queue.entries, entry.id = id ∧ entry.deadline = deadline) := by
  obtain ⟨keeps, same⟩ := serve_all_keeps calls
  have accounts := serve_all_accounts calls
  refine ⟨same, keeps.entries, next_deadline_least _ _ keeps, keeps.entries.length_eq, keeps.entries.isEmpty_eq,
    accounts.numbered, ?_, accounts.genuine, accounts.once, accounts.consistent.indexed⟩
  intro id
  exact ⟨pending_open _ _ accounts id, cancel_told _ accounts.consistent id⟩

end ChainExplorer.Timer
