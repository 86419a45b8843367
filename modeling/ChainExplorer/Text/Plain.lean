set_option autoImplicit false

namespace ChainExplorer.Text

inductive Steering where
  | text
  | escape
  | marked
  | sequence
  | command
  | string
deriving Repr, DecidableEq

def isWhiteControl (c : Char) : Bool := c == '\t' || c == '\n' || c == '\x0C' || c == '\r'

def isPlain (c : Char) : Bool := (0x20 ≤ c.toNat && c.toNat != 0x7F) || isWhiteControl c

def afterEscape (c : Char) : Steering :=
  if c = '[' then .sequence
  else if c = ']' then .command
  else if c = 'P' ∨ c = 'X' ∨ c = '^' ∨ c = '_' then .string
  else if 0x20 ≤ c.toNat ∧ c.toNat ≤ 0x2F then .marked
  else if 0x30 ≤ c.toNat ∧ c.toNat ≤ 0x7E then .text
  else .escape

def Steering.next (steering : Steering) (c : Char) : Steering :=
  if c = '\x1B' then .escape
  else if c = '\x18' ∨ c = '\x1A' then .text
  else
    match steering with
    | .text => .text
    | .escape => afterEscape c
    | .marked => if 0x30 ≤ c.toNat ∧ c.toNat ≤ 0x7E then .text else .marked
    | .sequence => if 0x40 ≤ c.toNat ∧ c.toNat ≤ 0x7E then .text else .sequence
    | .command => if c = '\x07' then .text else .command
    | .string => .string

-- Whether a character is shown. White space ends a sequence, but neither a command nor a string.
def Steering.shows (steering : Steering) (c : Char) : Bool :=
  match steering with
  | .text => isPlain c
  | .escape | .marked | .sequence => isWhiteControl c
  | .command | .string => false

def plainFrom (steering : Steering) : List Char → List Char
  | [] => []
  | c :: rest => if steering.shows c then c :: plainFrom .text rest else plainFrom (steering.next c) rest

def plain (text : String) : String := String.ofList (plainFrom .text text.toList)

end ChainExplorer.Text
