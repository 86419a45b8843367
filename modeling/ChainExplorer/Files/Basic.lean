import ChainExplorer.Files.Path
import ChainExplorer.Text.Quoted

set_option autoImplicit false

namespace ChainExplorer

inductive FileError where
  | notFound
  | alreadyExists
  | notADirectory
  | isADirectory
  | other (text : String)
deriving Repr, DecidableEq

namespace FileError

def facts? : FileError → Option (Nat × String × String)
  | .notFound => some (2, "NotFound", "No such file or directory")
  | .alreadyExists => some (17, "AlreadyExists", "File exists")
  | .notADirectory => some (20, "NotADirectory", "Not a directory")
  | .isADirectory => some (21, "IsADirectory", "Is a directory")
  | .other _ => none

def message (problem : FileError) : String :=
  match problem, problem.facts? with
  | _, some (code, _, text) => text ++ " (os error " ++ toString code ++ ")"
  | .other text, none => text
  | _, none => ""

def diagnostic (problem : FileError) : String :=
  match problem, problem.facts? with
  | _, some (code, name, text) =>
      "Os \x7b code: " ++ toString code ++ ", kind: " ++ name ++ ", message: " ++ Text.quoted text ++ " \x7d"
  | .other text, none => "Custom \x7b kind: Other, error: " ++ Text.quoted text ++ " \x7d"
  | _, none => ""

end FileError

class Files (m : Type → Type) where
  here : m String
  isThere : String → m Bool
  isFile : String → m Bool
  read : String → m (Except FileError String)
  makeDirectory : String → m (Except FileError Unit)
  write : String → String → m (Except FileError Unit)
  append : String → String → m (Except FileError Unit)

end ChainExplorer
