import ChainExplorer.Results.Basic
import ChainExplorer.Search.Input
import ChainExplorer.Search.Request
import ChainExplorer.View.Basic

set_option autoImplicit false

namespace ChainExplorer.Search

inductive Key where
  | enter
  | char (c : Char)
  | backspace
  | delete
  | left
  | right
  | home
  | toEnd
deriving Repr, DecidableEq

inductive Outcome where
  | rendered (kind : Kind)
  | unknownKind (name : String)
  | failed (message : Option String)
  | stale
deriving Repr, DecidableEq

structure Controller where
  input : Input
  focused : Bool
  loading : Bool
  ignoreStale : Bool
  nextRequest : Nat
  latest : Option Nat
deriving Repr, DecidableEq

def Kind.aspect? : Kind → Option Aspect
  | .block | .blockHeader => some .block
  | .address => some .address
  | .transaction => some .transaction
  | .unknown _ => none

def Result.outcome (result : Result) : Outcome :=
  if result.succeeded then
    match result.kind with
    | .unknown name => .unknownKind name
    | kind => .rendered kind
  else .failed result.errorMessage

def Result.rendering? (result : Result) : Option Rendering :=
  if result.succeeded then result.kind.aspect?.map fun aspect => ⟨aspect, result.object⟩ else none

namespace Controller

def withIgnoreStale (ignoreStale : Bool) : Controller := ⟨.empty, false, false, ignoreStale, 1, none⟩

def focus (controller : Controller) : Controller :=
  { controller with focused := true, input := controller.input.selectAll }

def blur (controller : Controller) : Controller :=
  { controller with focused := false, input := controller.input.deselect }

def request? (controller : Controller) : Option Request :=
  if controller.input.isEmpty then none else some ⟨controller.nextRequest, controller.input.value⟩

def sent (controller : Controller) (request : Request) : Controller :=
  { controller with loading := true, nextRequest := request.id + 1, latest := some request.id }.blur

def submit (controller : Controller) : Controller × Option Request :=
  match controller.request? with
  | none => (controller, none)
  | some request => (controller.sent request, some request)

-- The effect of a key before it edits the input: Enter submits. Once it has sent a request, the key is used
-- up.
def press (controller : Controller) : Key → Controller × Option Request
  | .enter => controller.submit
  | _ => (controller, none)

def edit (controller : Controller) (key : Key) : Controller :=
  let input := controller.input
  { controller with
    input := match key with
      | .enter => input
      | .char c => input.insert c
      | .backspace => input.backspace
      | .delete => input.delete
      | .left => input.left
      | .right => input.right
      | .home => input.home
      | .toEnd => input.toEnd }

-- After each key, a text with the length of a full hash is displayed in upper case.
def release (controller : Controller) : Controller :=
  { controller with
    input := controller.input.withTransform
      (if controller.input.length = Hash.fullLength then .upperCase else .asTyped) }

def type (controller : Controller) (key : Key) : Controller × Option Request :=
  match controller.press key with
  | (controller, some request) => (controller.release, some request)
  | (controller, none) => ((controller.edit key).release, none)

def search (controller : Controller) (text : String) : Controller × Option Request :=
  { controller with input := controller.input.setValue text }.submit

def load (controller : Controller) : Option String → Controller × Option Request
  | none => (controller, none)
  | some text => controller.search text

-- Restores a visit: a hash or an address is searched again, and the landing page shows nothing.
def restore (controller : Controller) (results : Results) (visit : Visit) :
    Controller × Results × Option Request :=
  match visit.filter (!·.isEmpty) with
  | none => ({ controller with input := controller.input.clear }, results.clear, none)
  | some text =>
      let (controller, request) := controller.search text
      (controller, results, request)

def isStale (controller : Controller) (request : Nat) : Bool :=
  controller.ignoreStale && controller.latest != some request

def outcome (controller : Controller) (completion : Completion) : Outcome :=
  if controller.isStale completion.id then .stale else completion.result.outcome

def rendering? (controller : Controller) (completion : Completion) : Option Rendering :=
  if controller.isStale completion.id then none else completion.result.rendering?

-- An answer that is not stale ends the loading indicator.
def respond (controller : Controller) (completion : Completion) : Controller :=
  if controller.isStale completion.id then controller else { controller with loading := false }

end Controller
end ChainExplorer.Search
