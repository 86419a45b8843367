set_option autoImplicit false

namespace ChainExplorer

-- Milliseconds after an arbitrary start.
abbrev Time := Nat

abbrev TimerId := Nat

namespace Timer

structure Entry (α : Type) where
  deadline : Time
  id : TimerId
  task : α
deriving Repr, DecidableEq

def Entry.before {α : Type} (a b : Entry α) : Bool :=
  a.deadline < b.deadline || (a.deadline == b.deadline && a.id < b.id)

def insertEntry {α : Type} (entry : Entry α) : List (Entry α) → List (Entry α)
  | [] => [entry]
  | head :: rest => if entry.before head then entry :: head :: rest else head :: insertEntry entry rest

structure Queue (α : Type) where
  nextId : TimerId
  entries : List (Entry α)
  deadlines : List (TimerId × Time)
deriving Repr, DecidableEq

variable {α : Type}

def Queue.empty : Queue α := ⟨0, [], []⟩

def Queue.schedule (queue : Queue α) (now delay : Time) (task : α) : Queue α × TimerId :=
  let id := queue.nextId
  ({ nextId := id + 1
     entries := insertEntry ⟨now + delay, id, task⟩ queue.entries
     deadlines := (id, now + delay) :: queue.deadlines }, id)

def Queue.cancel (queue : Queue α) (id : TimerId) : Queue α × Bool :=
  match queue.deadlines.lookup id with
  | none => (queue, false)
  | some deadline =>
      ({ queue with
          entries := queue.entries.filter fun entry => !(entry.deadline == deadline && entry.id == id)
          deadlines := queue.deadlines.filter fun known => known.1 != id },
       queue.entries.any fun entry => entry.deadline == deadline && entry.id == id)

def Queue.isPending (queue : Queue α) (id : TimerId) : Bool := (queue.deadlines.lookup id).isSome

-- What is scheduled while the due entries are worked off is not among them, even without a delay.
def Queue.takeDue (queue : Queue α) (now : Time) : Queue α × List (Entry α) :=
  let due := queue.entries.takeWhile fun entry => entry.deadline ≤ now
  ({ queue with
      entries := queue.entries.dropWhile fun entry => entry.deadline ≤ now
      deadlines := queue.deadlines.filter fun known => !(due.any fun entry => entry.id == known.1) }, due)

def Queue.nextDeadline (queue : Queue α) : Option Time := queue.entries.head?.map (·.deadline)

def Queue.size (queue : Queue α) : Nat := queue.entries.length

def Queue.isEmpty (queue : Queue α) : Bool := queue.entries.isEmpty

end Timer
end ChainExplorer
