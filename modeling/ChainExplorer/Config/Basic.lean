import ChainExplorer.Number.Word
import ChainExplorer.Timer.Queue
import ChainExplorer.Toml.Printer

set_option autoImplicit false

namespace ChainExplorer

structure Config where
  endpoint : String
  -- Milliseconds from the last request for a pass to the pass.
  settleDelay : Nat
  logFile : Option String
  -- Answers to searches other than the latest are dropped.
  ignoreStale : Bool
  userAgent : Option String
deriving Repr, DecidableEq

namespace Config

def default : Config := ⟨"http://localhost:8081", 200, none, false, none⟩

inductive Member where
  | endpoint
  | settleDelay
  | logFile
  | ignoreStale
  | userAgent
deriving Repr, DecidableEq

def Member.name : Member → String
  | .endpoint => "endpoint"
  | .settleDelay => "settle_delay_ms"
  | .logFile => "log_file"
  | .ignoreStale => "ignore_stale_responses"
  | .userAgent => "user_agent"

def line (member : Member) (value : List Char) : List Char :=
  member.name.toList ++ [' ', '=', ' '] ++ value ++ ['\n']

def optionalLine (member : Member) : Option String → List Char
  | none => []
  | some text => line member (Toml.writeString text.toList)

def delayLimit : Nat := Number.signedLimit

def encode? (config : Config) : Option String :=
  if config.settleDelay < delayLimit then
    some <| String.ofList <|
      line .endpoint (Toml.writeString config.endpoint.toList)
        ++ line .settleDelay (Nat.toDigits 10 config.settleDelay)
        ++ optionalLine .logFile config.logFile
        ++ line .ignoreStale (if config.ignoreStale then "true".toList else "false".toList)
        ++ optionalLine .userAgent config.userAgent
  else none

end Config
end ChainExplorer
