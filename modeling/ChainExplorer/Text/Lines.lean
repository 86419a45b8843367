import ChainExplorer.Text.Width

set_option autoImplicit false

namespace ChainExplorer.Text

def endLine (line : List Char) : List Char :=
  if line.getLast? = some '\r' then line.dropLast else line

def linesBehind (line : List Char) : List Char → List (List Char)
  | [] => if line.isEmpty then [] else [line]
  | c :: rest => if c = '\n' then endLine line :: linesBehind [] rest else linesBehind (line ++ [c]) rest

def lines (text : List Char) : List (List Char) := linesBehind [] text

-- The columns that the lines of a text take when they stand side by side.
def joinedWidth (text : String) : Nat := ((lines text.toList).map width).foldr (· + ·) 0

end ChainExplorer.Text
