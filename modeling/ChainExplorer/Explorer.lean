import ChainExplorer.Formatter
import ChainExplorer.Journal.Basic

set_option autoImplicit false

namespace ChainExplorer

open Search (Controller Key Request Completion Outcome)

inductive Command where
  | focus
  | blur
  | key (key : Key)
  | back
  | forward
  | scrollUp
  | scrollDown
  | resize
  | quit
deriving Repr, DecidableEq

inductive Flow where
  | continue
  | exit
deriving Repr, DecidableEq

structure Explorer where
  controller : Controller
  view : View
  formatter : Formatter
  -- Requests that no worker has taken, oldest first.
  outbox : List Request
  -- Answers that have arrived, oldest first.
  inbox : List Completion
  connected : Bool
  closeNoted : Bool
  lastOutcome : Option Outcome
deriving Repr, BEq

namespace Explorer

def start (ignoreStale : Bool) (settleDelay : Time) : Explorer :=
  { controller := .withIgnoreStale ignoreStale
    view := .empty
    formatter := .withDelay settleDelay
    outbox := []
    inbox := []
    connected := true
    closeNoted := false
    lastOutcome := none }

def withController (explorer : Explorer) (step : Controller × Option Request) : Explorer :=
  { explorer with controller := step.1, outbox := explorer.outbox ++ step.2.toList }

def requestPass (explorer : Explorer) (now : Time) : Explorer :=
  { explorer with formatter := (explorer.formatter.request now none).1 }

def load (explorer : Explorer) (search : Option String) (now : Time) : Explorer :=
  (explorer.withController (explorer.controller.load search)).requestPass now

def navigate (explorer : Explorer) (history : Option History) : Explorer :=
  match history with
  | none => explorer
  | some history =>
      let (controller, results, request) :=
        explorer.controller.restore explorer.view.results history.current
      { explorer with view := { explorer.view with results, history } }.withController (controller, request)

def apply (explorer : Explorer) (command : Command) (now : Time) : Explorer × Flow :=
  match command with
  | .focus => ({ explorer with controller := explorer.controller.focus }, .continue)
  | .blur => ({ explorer with controller := explorer.controller.blur }, .continue)
  | .key key =>
      if explorer.controller.focused then
        (explorer.withController (explorer.controller.type key), .continue)
      else (explorer, .continue)
  | .back => (explorer.navigate explorer.view.history.back, .continue)
  | .forward => (explorer.navigate explorer.view.history.forward, .continue)
  | .scrollUp => ({ explorer with view.results := explorer.view.results.scrollUp }, .continue)
  | .scrollDown => ({ explorer with view.results := explorer.view.results.scrollDown }, .continue)
  | .resize => (explorer.requestPass now, .continue)
  | .quit => ({ explorer with formatter := explorer.formatter.dispose }, .exit)

-- An answer arrives; the answer tells whether it was taken.
def deliver (explorer : Explorer) (completion : Completion) : Explorer × Bool :=
  if explorer.connected then ({ explorer with inbox := explorer.inbox ++ [completion] }, true)
  else (explorer, false)

def close (explorer : Explorer) : Explorer := { explorer with connected := false }

def receive (explorer : Explorer) (completion : Completion) : Explorer :=
  { explorer with
    controller := explorer.controller.respond completion
    view := match explorer.controller.rendering? completion with
      | none => explorer.view
      | some rendering => explorer.view.render rendering
    lastOutcome := some (explorer.controller.outcome completion) }

def receiveAll (explorer : Explorer) : Explorer :=
  { explorer.inbox.foldl receive explorer with inbox := [] }

def requestRendered (explorer : Explorer) (now : Time) : Explorer :=
  let (view, rendered) := explorer.view.takeRendered
  { explorer with
    view
    formatter := rendered.foldl (fun formatter id => (formatter.request now (some id)).1) explorer.formatter }

def format (explorer : Explorer) (now : Time) : Explorer × List (Timer.Entry Formatter.Task) :=
  let ((formatter, results), due) := explorer.formatter.tick explorer.view.results now
  ({ explorer with formatter, view.results := results }, due)

def noteClose (explorer : Explorer) : Explorer :=
  { explorer with closeNoted := explorer.closeNoted || !explorer.connected }

-- Acts on the answers that have arrived and on the work that has come due. The answer tells whether there
-- was any.
def advance (explorer : Explorer) (now : Time) : Explorer × Bool :=
  let (advanced, due) := (explorer.receiveAll.noteClose.requestRendered now).format now
  (advanced, !explorer.inbox.isEmpty || !due.isEmpty)

def answerNotices : Explorer → List Completion → List Notice
  | _, [] => []
  | explorer, completion :: rest =>
      (Notice.ofOutcome completion.id (explorer.controller.outcome completion)).toList
        ++ answerNotices (explorer.receive completion) rest

def notices (explorer : Explorer) : List Notice :=
  explorer.answerNotices explorer.inbox
    ++ if explorer.connected || explorer.closeNoted then [] else [.answersClosed]

end Explorer
end ChainExplorer
