set_option autoImplicit false

namespace ChainExplorer.Text

def byteLength (text : List Char) : Nat := (text.map Char.utf8Size).foldr (· + ·) 0

def placed : Nat → List Char → List (Nat × Char)
  | _, [] => []
  | offset, c :: rest => (offset, c) :: placed (offset + c.utf8Size) rest

def cut? : Nat → List Char → Option (List Char × List Char)
  | 0, text => some ([], text)
  | _ + 1, [] => none
  | offset + 1, c :: rest =>
      if c.utf8Size ≤ offset + 1 then
        (cut? (offset + 1 - c.utf8Size) rest).map fun (before, after) => (c :: before, after)
      else none

def insertAt? (offset : Nat) (c : Char) (text : List Char) : Option (List Char) :=
  (cut? offset text).map fun (before, after) => before ++ c :: after

-- No character begins at the end.
def removeAt? (offset : Nat) (text : List Char) : Option (List Char) :=
  match cut? offset text with
  | some (before, _ :: after) => some (before ++ after)
  | _ => none

end ChainExplorer.Text
