import ChainExplorer.Hash
import ChainExplorer.Text.Lines

set_option autoImplicit false

namespace ChainExplorer

inductive FieldKind where
  | hash
  | transactionHash
  | blockHashes
  | previousBlockHash
  | plain
deriving Repr, DecidableEq

def FieldKind.bearsHash : FieldKind → Bool
  | .plain => false
  | _ => true

structure Box where
  width : Nat
  height : Nat
deriving Repr, DecidableEq

structure Field where
  label : String
  kind : FieldKind
  value : Option String
  fullHash : Option String := none
  box : Option Box := none
deriving Repr, DecidableEq

namespace Field

def setValue (field : Field) (text : String) : Field := { field with value := some text }

def rememberHash (field : Field) (text : String) : Field := { field with fullHash := some text }

def setBox (field : Field) (box : Box) : Field := { field with box := some box }

def contentWidth (field : Field) : Nat :=
  match field.value with
  | none => 0
  | some text => Text.joinedWidth text

-- A field that was never drawn has room enough.
def isOverflowing (field : Field) : Bool :=
  match field.box with
  | none => false
  | some box => box.width < field.contentWidth || (box.height = 0 && 0 < field.contentWidth)

-- The text that the formatter judges: the remembered hash, or else the text on display.
def judgedText (field : Field) : String :=
  match field.fullHash with
  | none | some "" => field.value.getD ""
  | some hash => hash

def hash? (field : Field) : Option String :=
  if Hash.isFull field.judgedText then some field.judgedText else none

def reset (field : Field) (hash : String) : Field := (field.rememberHash hash).setValue hash

def overflowingHash? (field : Field) : Option String :=
  if field.isOverflowing then field.fullHash else none

end Field
end ChainExplorer
