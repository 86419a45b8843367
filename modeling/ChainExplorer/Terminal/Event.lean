import ChainExplorer.Explorer

set_option autoImplicit false

namespace ChainExplorer.Terminal

inductive KeyCode where
  | char (c : Char)
  | escape
  | enter
  | backspace
  | delete
  | left
  | right
  | up
  | down
  | home
  | toEnd
  | tab
  | other
deriving Repr, DecidableEq

structure Modifiers where
  shift : Bool := false
  control : Bool := false
  alt : Bool := false
  superKey : Bool := false
  hyper : Bool := false
  metaKey : Bool := false
deriving Repr, DecidableEq

namespace Modifiers

def none : Modifiers := {}

def onlyShift : Modifiers := { shift := true }

def onlyControl : Modifiers := { control := true }

def onlyAlt : Modifiers := { alt := true }

end Modifiers

inductive Phase where
  | press
  | repeat
  | release
deriving Repr, DecidableEq

inductive Event where
  | key (code : KeyCode) (modifiers : Modifiers) (phase : Phase)
  | resize
  | other
deriving Repr, DecidableEq

-- A key while the search input has the focus. A character counts unless it comes with a modifier other than
-- shift.
def typed? : KeyCode → Modifiers → Option Command
  | .escape, _ => some .blur
  | .enter, _ => some (.key .enter)
  | .backspace, _ => some (.key .backspace)
  | .delete, _ => some (.key .delete)
  | .left, _ => some (.key .left)
  | .right, _ => some (.key .right)
  | .home, _ => some (.key .home)
  | .toEnd, _ => some (.key .toEnd)
  | .char c, modifiers =>
      if modifiers = .none ∨ modifiers = .onlyShift then some (.key (.char c)) else none
  | _, _ => none

def shortcut? : KeyCode → Option Command
  | .char '/' | .tab => some .focus
  | .char 'q' | .escape => some .quit
  | .char 'b' => some .back
  | .char 'f' => some .forward
  | .char 'k' | .up => some .scrollUp
  | .char 'j' | .down => some .scrollDown
  | _ => none

def everywhere? (code : KeyCode) (modifiers : Modifiers) : Option Command :=
  if code = .char 'c' ∧ modifiers = .onlyControl then some .quit
  else if code = .left ∧ modifiers = .onlyAlt then some .back
  else if code = .right ∧ modifiers = .onlyAlt then some .forward
  else none

def Event.command? (typing : Bool) : Event → Option Command
  | .key code modifiers phase =>
      if phase = .release then none
      else match everywhere? code modifiers with
        | some command => some command
        | none => if typing then typed? code modifiers else shortcut? code
  | .resize => some .resize
  | .other => none

end ChainExplorer.Terminal
