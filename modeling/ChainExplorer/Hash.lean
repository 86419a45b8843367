set_option autoImplicit false

namespace ChainExplorer.Hash

def fullLength : Nat := 64

def headLength : Nat := 10

def tailLength : Nat := 10

def isFull (text : String) : Bool := text.length == fullLength

def abbreviate (text : String) : String :=
  if isFull text then
    String.ofList (text.toList.take headLength ++ ['.', '.', '.'] ++ text.toList.drop (fullLength - tailLength))
  else text

end ChainExplorer.Hash
