import ChainExplorer.Config.Reader
import ChainExplorer.Files.Basic

set_option autoImplicit false

namespace ChainExplorer.Config

inductive Error where
  | noDirectory
  | notFound (path : String)
  | unreadable (problem : FileError)
  | faulty (fault : Fault) (file : String)
  | noParent (problem : FileError)
  | delayTooLarge
  | unwritable (problem : FileError)
  | other (text : String)
deriving Repr, DecidableEq

def Error.message : Error → String
  | .noDirectory => "Could not determine config directory"
  | .notFound path => "configuration file \"" ++ path ++ "\" not found"
  | .unreadable problem => problem.message
  | .faulty fault file => fault.message ++ " in " ++ file
  | .noParent problem => "Failed to create config directory: " ++ problem.message
  | .delayTooLarge => "Failed to serialize config: out-of-range value for u64 type"
  | .unwritable problem => "Failed to write config file: " ++ problem.message
  | .other text => text

variable {m : Type → Type} [Monad m] [Files m]

def makeParent (path : String) : m (Except FileError Unit) :=
  match Path.parent? path with
  | none => pure (.ok ())
  | some parent => Files.makeDirectory parent

def save (config : Config) (path : String) : m (Except Error Unit) := do
  match ← makeParent path with
  | .error problem => pure (.error (.noParent problem))
  | .ok () =>
      match config.encode? with
      | none => pure (.error .delayTooLarge)
      | some text =>
          match ← Files.write path text with
          | .error problem => pure (.error (.unwritable problem))
          | .ok () => pure (.ok ())

def findFile (path : String) : m (Option String) := do
  if ← Files.isFile path then pure (some path)
  else if ← Files.isFile (path ++ ".toml") then pure (some (path ++ ".toml"))
  else pure none

def withoutMark (text : String) : String :=
  match text.toList with
  | '\uFEFF' :: rest => String.ofList rest
  | _ => text

def load (path : String) : m (Except Error Config) := do
  match ← findFile path with
  | none => pure (.error (.notFound path))
  | some file =>
      match ← Files.read file with
      | .error problem => pure (.error (.unreadable problem))
      | .ok text =>
          match decode (withoutMark text) with
          | .ok config => pure (.ok config)
          | .error fault =>
              let here ← Files.here
              pure (.error (.faulty fault (Path.relative here (Path.join here file))))

-- The answer tells whether the file was missing.
def loadOrCreate (path : String) : m (Except Error (Config × Bool)) := do
  if ← Files.isThere path then
    return (← load path).map (·, false)
  else
    return (← save default path).map fun () => (default, true)

-- The directory for configurations counts only if its path is absolute.
def defaultPath? (configHome home : Option String) : Option String :=
  let directory : Option String := match configHome.filter Path.isAbsolute with
    | some directory => some directory
    | none => (home.filter fun path : String => !path.isEmpty).map fun path => Path.join path ".config"
  directory.map fun path => Path.join (Path.join path "blockscope") "config.toml"

end ChainExplorer.Config
