import ChainExplorer.CommandLine
import ChainExplorer.Config.Store
import ChainExplorer.Journal.Basic
import ChainExplorer.Journal.Filter

set_option autoImplicit false

namespace ChainExplorer

inductive Problem where
  | config (problem : Config.Error)
  | file (problem : FileError)
  | backend (problem : Search.BackendError)
  | screen (problem : FileError)
  | log (text : String)
  | input (text : String)
deriving Repr, DecidableEq

namespace Problem

def message : Problem → String
  | .config problem => "Configuration error: " ++ problem.message
  | .file problem => "I/O error: " ++ problem.message
  | .backend problem => "API error: " ++ problem.message
  | .screen problem => "UI error: IO error: " ++ problem.message
  | .log text => "Logging error: " ++ text
  | .input text => "Invalid input: " ++ text

def diagnostic : Problem → String
  | .config problem => "Config(" ++ problem.message ++ ")"
  | .file problem => "Io(" ++ problem.diagnostic ++ ")"
  | .backend problem => "Api(" ++ problem.diagnostic ++ ")"
  | .screen problem => "Ui(Io(" ++ problem.diagnostic ++ "))"
  | .log text => "Logging(" ++ Text.quoted text ++ ")"
  | .input text => "InvalidInput(" ++ Text.quoted text ++ ")"

end Problem

structure Surroundings where
  arguments : List String
  configHome : Option String
  home : Option String
  logFilter : Option String
deriving Repr, DecidableEq

structure Ready where
  client : Search.Client
  config : Config
  launch : Option String
deriving Repr, DecidableEq

inductive Startup where
  | stopped (stop : CommandLine.Stop)
  | failed (problem : Problem)
  | ready (ready : Ready)
deriving Repr, DecidableEq

namespace Startup

variable {m : Type → Type} [Monad m] [Files m]

def firstOrigin : Journal.Origin := ⟨"blockscope::logging", ["message", "version"], .info⟩

def firstNote : String := "INFO " ++ firstOrigin.target ++ ": blockscope starting version=\"0.1.0\""

-- Where a log may stand: a directory and the name of a file in it.
def logPlace? (path : String) : Option (String × String) :=
  match Path.name? path, Path.parent? path with
  | some name, none | some name, some "" => some (".", name)
  | some name, some directory => some (directory, name)
  | none, _ => none

def makeLog (path : String) : m (Except Problem String) := do
  match logPlace? path with
  | none => pure (.error (.input ("not a log file path: " ++ path)))
  | some (directory, name) =>
      match ← Files.makeDirectory directory with
      | .error problem => pure (.error (.file problem))
      | .ok () => return ((← Files.append (Path.join directory name) "").mapError .file).map fun () =>
          Path.join directory name

def secondLog : Problem := .log "a global default trace dispatcher has already been set"

-- Opens a log and makes the first note. `stamp` writes a note with the time before it.
def openLog (stamp : String → String) (filter : Journal.Filter) (path : String) : m (Except Problem Unit) := do
  match ← makeLog path with
  | .error problem => pure (.error problem)
  | .ok file =>
      if filter.passes firstOrigin then
        return (← Files.append file (stamp firstNote ++ "\n")).mapError .file
      else pure (.ok ())

def loadConfig (surroundings : Surroundings) (options : CommandLine.Options) : m (Except Config.Error Config) := do
  match options.config with
  | some path => Config.load path
  | none =>
      match Config.defaultPath? surroundings.configHome surroundings.home with
      | none => pure (.error .noDirectory)
      | some path => return (← Config.loadOrCreate path).map (·.1)

def openConfiguredLog (stamp : String → String) (surroundings : Surroundings) (config : Config) :
    m (Except Problem Unit) :=
  match config.logFile with
  | none => pure (.ok ())
  | some path => openLog stamp (.ofSetting surroundings.logFilter) path

def run (stamp : String → String) (surroundings : Surroundings) : m Startup := do
  match CommandLine.read surroundings.arguments with
  | .error stop => pure (.stopped stop)
  | .ok options =>
      match ← loadConfig surroundings options with
      | .error problem => pure (.failed (.config problem))
      | .ok config =>
          let config := options.override config
          match ← openConfiguredLog stamp surroundings config with
          | .error problem => pure (.failed problem)
          | .ok () =>
              match Search.Client.connect config.endpoint config.userAgent with
              | .error problem => pure (.failed (.backend problem))
              | .ok client => pure (.ready ⟨client, config, options.launch⟩)

def status : Startup → Nat
  | .stopped stop => stop.status
  | .failed _ => 1
  | .ready _ => 0

def output : Startup → String
  | .stopped .help => CommandLine.helpText
  | .stopped .version => CommandLine.versionText
  | _ => ""

def errors : Startup → String
  | .stopped .help | .stopped .version | .ready _ => ""
  | .stopped stop => stop.message ++ "\n\nFor more information, try '--help'.\n"
  | .failed problem => "Error: " ++ problem.diagnostic ++ "\n"

end Startup
end ChainExplorer
