set_option autoImplicit false

namespace ChainExplorer.Screen

inductive Color where
  | reset
  | cyan
  | darkGray
  | yellow
  | gray
  | magenta
  | green
  | red
deriving Repr, DecidableEq

structure Style where
  color : Color := .reset
  bold : Bool := false
  reversed : Bool := false
  blinking : Bool := false
deriving Repr, DecidableEq

namespace Style

def normal : Style := {}

def accent : Style := { color := .cyan, bold := true }

def border : Style := { color := .darkGray }

def dimmed : Style := { color := .darkGray }

def selection : Style := { reversed := true }

def cursor : Style := { blinking := true }

def title : Style := { color := .yellow, bold := true }

def label : Style := { color := .gray }

def hash : Style := { color := .magenta }

def success : Style := { color := .green }

def warning : Style := { color := .yellow }

def error : Style := { color := .red }

end Style
end ChainExplorer.Screen
