set_option autoImplicit false

namespace ChainExplorer.Path

def isAbsolute (path : String) : Bool := path.toList.head? = some '/'

def names (path : String) : List String := (path.toList.splitOn '/').map String.ofList

def parts (path : String) : List String :=
  let all := (names path).filter (!·.isEmpty)
  match all with
  | "." :: rest => if isAbsolute path then rest.filter (· != ".") else "." :: rest.filter (· != ".")
  | all => all.filter (· != ".")

def ofParts (absolute : Bool) (parts : List String) : String :=
  (if absolute then "/" else "") ++ "/".intercalate parts

def name? (path : String) : Option String := (parts path).getLast?.filter fun name => name != "." && name != ".."

def parent? (path : String) : Option String :=
  if (parts path).isEmpty then none else some (ofParts (isAbsolute path) (parts path).dropLast)

def join (directory entry : String) : String :=
  if isAbsolute entry then entry
  else if directory.isEmpty ∨ directory.toList.getLast? = some '/' then directory ++ entry
  else directory ++ "/" ++ entry

def asksForDirectory (path : String) : Bool :=
  match (names path).getLast? with
  | none => false
  | some last => (last.isEmpty && !path.isEmpty) || last == "."

def steps : List String → List String → List String
  | a :: rest, b :: place => if a = b then steps rest place else (b :: place).map (fun _ => "..") ++ a :: rest
  | path, place => place.map (fun _ => "..") ++ path

def relative (place path : String) : String := ofParts false (steps (parts path) (parts place))

end ChainExplorer.Path
