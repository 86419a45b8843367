import ChainExplorer.Screen.Basic
import ChainExplorer.Startup
import Std.Time.DateTime.Timestamp

set_option autoImplicit false

namespace ChainExplorer

def FileError.ofSystem : IO.Error → FileError
  | .noFileOrDirectory .. => .notFound
  | .noSuchThing .. => .notFound
  | .alreadyExists .. => .alreadyExists
  | .inappropriateType _ 20 _ => .notADirectory
  | .inappropriateType _ 21 _ => .isADirectory
  | problem => .other problem.toString

def attempted {α : Type} (action : IO α) : IO (Except FileError α) := do
  try return .ok (← action)
  catch problem => return .error (.ofSystem problem)

instance : Files IO where
  here := return (← IO.currentDir).toString
  isThere path := do ((← IO.currentDir) / path).pathExists
  isFile path := do
    let file := (← IO.currentDir) / path
    return (← file.pathExists) && !(← file.isDir)
  read path := attempted (IO.FS.readFile path)
  makeDirectory path := attempted do unless path.isEmpty do IO.FS.createDirAll path
  write path text := attempted (IO.FS.writeFile path text)
  append path text := attempted do
    let file ← IO.FS.Handle.mk path .append
    file.putStr text

-- A note with a time before it, in seconds and millionths of them since the start of 1970.
def stamped (seconds : Int) (millionths : Nat) (note : String) : String :=
  let date := Calendar.dateOfDay (seconds / 86400)
  let second : Nat := (seconds % 86400).toNat
  Calendar.yearText date.year ++ "-" ++ Calendar.padded 2 date.month ++ "-" ++ Calendar.padded 2 date.day ++ "T"
    ++ Calendar.padded 2 (second / 3600) ++ ":" ++ Calendar.padded 2 (second / 60 % 60) ++ ":"
    ++ Calendar.padded 2 (second % 60) ++ "." ++ Calendar.padded 6 millionths ++ "Z  " ++ note

def firstScreen (ready : Ready) (width height : Nat) : List String :=
  let explorer := Explorer.start ready.config.ignoreStale ready.config.settleDelay
  (Screen.draw (explorer.load ready.launch 0) width height).2.map Screen.rowText

end ChainExplorer

open ChainExplorer in
-- The rows of the first screen have the size of a common terminal.
def main (arguments : List String) : IO UInt32 := do
  let now := (← Std.Time.Timestamp.now).toNanosecondsSinceUnixEpoch.val
  let surroundings : Surroundings :=
    { arguments
      configHome := ← IO.getEnv "XDG_CONFIG_HOME"
      home := ← IO.getEnv "HOME"
      logFilter := ← IO.getEnv "BLOCKSCOPE_LOG" }
  let stamp := stamped (now / 1000000000) ((now % 1000000000).toNat / 1000)
  let startup ← Startup.run stamp surroundings
  IO.print startup.output
  IO.eprint startup.errors
  if let .ready ready := startup then
    for row in firstScreen ready 80 24 do
      IO.println row
  return startup.status.toUInt32
