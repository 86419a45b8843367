import ChainExplorer.Results.Basic
import ChainExplorer.Timer.Queue

set_option autoImplicit false

namespace ChainExplorer

namespace Formatter

inductive Task where
  | globalPass
  | containerPass (container : ContainerId)
  | measure (field : FieldId)
deriving Repr, DecidableEq

def defaultSettleDelay : Time := 200

end Formatter

structure Formatter where
  settleDelay : Time
  timers : Timer.Queue Formatter.Task
  global : Option TimerId
  owned : List TimerId
deriving Repr, DecidableEq

namespace Formatter

def withDelay (settleDelay : Time) : Formatter := ⟨settleDelay, .empty, none, []⟩

def cancelGlobal (formatter : Formatter) : Formatter :=
  match formatter.global with
  | none => formatter
  | some timer => { formatter with timers := (formatter.timers.cancel timer).1, global := none }

def own (formatter : Formatter) (now delay : Time) (task : Task) : Formatter × TimerId :=
  let (timers, timer) := formatter.timers.schedule now delay task
  ({ formatter with timers, owned := timer :: formatter.owned }, timer)

-- Asks for a pass over all fields, in place of the one that is pending, or over one container.
def request (formatter : Formatter) (now : Time) : Option ContainerId → Formatter × TimerId
  | some container => formatter.own now formatter.settleDelay (.containerPass container)
  | none =>
      let ground := formatter.cancelGlobal
      let (timers, timer) := ground.timers.schedule now ground.settleDelay .globalPass
      ({ ground with timers, global := some timer }, timer)

def hasPendingGlobal (formatter : Formatter) : Bool := formatter.global.isSome

structure Pass where
  formatter : Formatter
  results : Results
  count : Nat
deriving Repr, DecidableEq

-- Shows the full hash of one field and schedules its measurement. A text that is no full hash stays.
def Pass.visit (now : Time) (pass : Pass) (id : FieldId) : Pass :=
  match (pass.results.field? id).bind Field.hash? with
  | none => pass
  | some hash =>
      { formatter := (pass.formatter.own now 0 (.measure id)).1
        results := pass.results.update id (·.reset hash)
        count := pass.count + 1 }

def runPass (formatter : Formatter) (results : Results) (now : Time) (scope : Option ContainerId) : Pass :=
  (results.hashFields scope).foldl (Pass.visit now) ⟨formatter, results, 0⟩

-- Abbreviates the hash of a field that does not fit; the answer tells whether it was abbreviated. A field
-- that is gone is passed over.
def measure (results : Results) (id : FieldId) : Results × Bool :=
  match (results.field? id).bind Field.overflowingHash? with
  | none => (results, false)
  | some hash => (results.update id (·.setValue (Hash.abbreviate hash)), true)

def handle (formatter : Formatter) (results : Results) (now : Time) (due : Timer.Entry Task) :
    Formatter × Results :=
  match due.task with
  | .globalPass =>
      let ground := if formatter.global = some due.id then { formatter with global := none } else formatter
      let pass := ground.runPass results now none
      (pass.formatter, pass.results)
  | .containerPass container =>
      let ground := { formatter with owned := formatter.owned.filter (· != due.id) }
      let pass := ground.runPass results now (some container)
      (pass.formatter, pass.results)
  | .measure field =>
      ({ formatter with owned := formatter.owned.filter (· != due.id) }, (measure results field).1)

def takeDue (formatter : Formatter) (now : Time) : Formatter × List (Timer.Entry Task) :=
  let (timers, due) := formatter.timers.takeDue now
  ({ formatter with timers }, due)

def tick (formatter : Formatter) (results : Results) (now : Time) :
    (Formatter × Results) × List (Timer.Entry Task) :=
  let (ground, due) := formatter.takeDue now
  (due.foldl (fun state entry => state.1.handle state.2 now entry) (ground, results), due)

def dispose (formatter : Formatter) : Formatter :=
  let ground := formatter.cancelGlobal
  { ground with
    timers := ground.owned.foldl (fun timers timer => (timers.cancel timer).1) ground.timers
    owned := [] }

end Formatter
end ChainExplorer
