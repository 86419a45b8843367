import ChainExplorer.Text.Case
import ChainExplorer.Text.Offset

set_option autoImplicit false

namespace ChainExplorer.Search

inductive Transform where
  | asTyped
  | upperCase
deriving Repr, DecidableEq

structure Input where
  value : String
  cursor : Nat
  selected : Bool
  transform : Transform
deriving Repr, DecidableEq

namespace Input

def empty : Input := ⟨"", 0, false, .asTyped⟩

def length (input : Input) : Nat := input.value.length

def isEmpty (input : Input) : Bool := input.value.isEmpty

def display (input : Input) : String :=
  match input.transform with
  | .asTyped => input.value
  | .upperCase => Text.upper input.value

def withTransform (input : Input) (transform : Transform) : Input := { input with transform }

def setValue (input : Input) (value : String) : Input :=
  { input with value, cursor := value.length, selected := false }

def clear (input : Input) : Input := { input with value := "", cursor := 0, selected := false }

def selectAll (input : Input) : Input :=
  { input with selected := !input.isEmpty, cursor := input.length }

def deselect (input : Input) : Input := { input with selected := false }

def before (input : Input) : List Char := input.value.toList.take input.cursor

def after (input : Input) : List Char := input.value.toList.drop input.cursor

-- The place of the cursor in bytes.
def offset (input : Input) : Nat :=
  match (Text.placed 0 input.value.toList)[input.cursor]? with
  | some (offset, _) => offset
  | none => Text.byteLength input.value.toList

-- The place at which the character before the cursor begins.
def priorOffset? (input : Input) : Option Nat :=
  (Text.cut? input.offset input.value.toList).map fun (front, _) =>
    match (Text.placed 0 front).getLast? with
    | some (offset, _) => offset
    | none => 0

def dropSelection (input : Input) : Input := if input.selected then input.clear else input

def insert? (input : Input) (c : Char) : Option Input :=
  let ground := input.dropSelection
  (Text.insertAt? ground.offset c ground.value.toList).map fun text =>
    { ground with value := String.ofList text, cursor := ground.cursor + 1 }

def backspace? (input : Input) : Option Input :=
  if input.selected then some input.clear
  else if input.cursor = 0 then some input
  else
    (input.priorOffset?.bind fun offset => Text.removeAt? offset input.value.toList).map fun text =>
      { input with value := String.ofList text, cursor := input.cursor - 1 }

def delete? (input : Input) : Option Input :=
  if input.selected then some input.clear
  else if input.offset < Text.byteLength input.value.toList then
    (Text.removeAt? input.offset input.value.toList).map fun text => { input with value := String.ofList text }
  else some input

-- An edit always finds its place, so these are the edits above.
@[irreducible]
def insert (input : Input) (c : Char) : Input := (input.insert? c).getD input

@[irreducible]
def backspace (input : Input) : Input := input.backspace?.getD input

@[irreducible]
def delete (input : Input) : Input := input.delete?.getD input

def left (input : Input) : Input := { input with selected := false, cursor := input.cursor - 1 }

def right (input : Input) : Input :=
  { input with
    selected := false
    cursor := if input.cursor < input.length then input.cursor + 1 else input.cursor }

def home (input : Input) : Input := { input with selected := false, cursor := 0 }

def toEnd (input : Input) : Input := { input with selected := false, cursor := input.length }

end Input
end ChainExplorer.Search
