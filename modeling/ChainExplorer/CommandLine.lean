import ChainExplorer.Config.Basic
import ChainExplorer.Number.Word
import ChainExplorer.Search.Client
import ChainExplorer.Text.Plain

set_option autoImplicit false

namespace ChainExplorer.CommandLine

inductive Flag where
  | search
  | url
  | endpoint
  | logFile
  | settleDelay
  | config
  | help
  | version
deriving Repr, DecidableEq

namespace Flag

def all : List Flag := [.search, .url, .endpoint, .logFile, .settleDelay, .config, .help, .version]

def long : Flag → String
  | .search => "search"
  | .url => "url"
  | .endpoint => "endpoint"
  | .logFile => "log-file"
  | .settleDelay => "settle-delay-ms"
  | .config => "config"
  | .help => "help"
  | .version => "version"

def short? : Flag → Option Char
  | .search => some 's'
  | .endpoint => some 'e'
  | .config => some 'c'
  | .help => some 'h'
  | .version => some 'V'
  | _ => none

def valueName? : Flag → Option String
  | .search => some "QUERY"
  | .url | .endpoint => some "URL"
  | .logFile | .config => some "PATH"
  | .settleDelay => some "MS"
  | .help | .version => none

def takesValue (flag : Flag) : Bool := flag.valueName?.isSome

def description : Flag → String
  | .search => "Search submitted on start-up (block height, hash, transaction or address)"
  | .url => "Explorer URL to take the start-up search from (its \x60search\x60 parameter)"
  | .endpoint => "Explorer backend base URL (overrides config)"
  | .logFile => "Write logs to this file (overrides config)"
  | .settleDelay => "Milliseconds to wait before formatting hashes (overrides config)"
  | .config => "Configuration file to use instead of the default one"
  | .help => "Print help"
  | .version => "Print version"

def shown (flag : Flag) : String :=
  "--" ++ flag.long ++ (match flag.valueName? with
    | some name => " <" ++ name ++ ">"
    | none => "")

def ofLong? (name : String) : Option Flag := all.find? fun flag => flag.long == name

def ofShort? (letter : Char) : Option Flag := all.find? fun flag => flag.short? == some letter

def descriptionColumn : Nat := 30

def helpLine (flag : Flag) : String :=
  let short := match flag.short? with
    | some letter => "-" ++ letter.toString ++ ", "
    | none => "    "
  let start := "  " ++ short ++ flag.shown
  start ++ String.ofList (List.replicate (descriptionColumn - start.length) ' ') ++ flag.description ++ "\n"

end Flag

def helpText : String :=
  "A terminal block explorer search client with overflow-aware hash display.\n\n"
    ++ "Usage: blockscope [OPTIONS]\n\nOptions:\n" ++ String.join (Flag.all.map Flag.helpLine)

def versionText : String := "blockscope 0.1.0\n"

inductive NumberFault where
  | empty
  | notADigit
  | tooLarge
deriving Repr, DecidableEq

def NumberFault.message : NumberFault → String
  | .empty => "cannot parse integer from empty string"
  | .notADigit => "invalid digit found in string"
  | .tooLarge => "number too large to fit in target type"

inductive Stop where
  | help
  | version
  | missingValue (flag : Flag)
  | unexpected (argument : String)
  | repeated (flag : Flag)
  | conflict (flag other : Flag)
  | badNumber (flag : Flag) (value : String) (fault : NumberFault)
  | unneededValue (flag : Flag) (value : String)
deriving Repr, DecidableEq

-- What is printed in place of a start. Nothing in it steers a terminal.
def Stop.message (stop : Stop) : String := Text.plain <| match stop with
  | .help => helpText
  | .version => versionText
  | .missingValue flag => "error: a value is required for '" ++ flag.shown ++ "' but none was supplied"
  | .unexpected argument => "error: unexpected argument '" ++ argument ++ "' found"
  | .repeated flag => "error: the argument '" ++ flag.shown ++ "' cannot be used multiple times"
  | .conflict flag other => "error: the argument '" ++ flag.shown ++ "' cannot be used with '" ++ other.shown ++ "'"
  | .badNumber flag value fault =>
      "error: invalid value '" ++ value ++ "' for '" ++ flag.shown ++ "': " ++ fault.message
  | .unneededValue flag value =>
      "error: unexpected value '" ++ value ++ "' for '" ++ flag.shown ++ "' found; no more were expected"

def Stop.status : Stop → Nat
  | .help | .version => 0
  | _ => 2

def readDigits (sum : Nat) : List Char → Except NumberFault Nat
  | [] => .ok sum
  | c :: rest =>
      if c < '0' ∨ '9' < c then .error .notADigit
      else
        let sum := sum * 10 + (c.toNat - 48)
        if sum < Number.wordLimit then readDigits sum rest else .error .tooLarge

-- A number of 64 bits. A plus sign may stand before it.
def readNumber (text : String) : Except NumberFault Nat :=
  match text.toList with
  | [] => .error .empty
  | '+' :: c :: rest => readDigits 0 (c :: rest)
  | chars => readDigits 0 chars

structure Options where
  search : Option String := none
  url : Option String := none
  endpoint : Option String := none
  logFile : Option String := none
  settleDelay : Option Nat := none
  config : Option String := none
deriving Repr, DecidableEq

structure Draft where
  options : Options := {}
  given : List Flag := []
  pending : Option (Flag × Option String) := none
deriving Repr, DecidableEq

namespace Draft

def path (flag : Flag) (value : String) : Except Stop (Option String) :=
  if value.isEmpty then .error (.missingValue flag) else .ok (some value)

def store (options : Options) (value : String) : Flag → Except Stop Options
  | .search => .ok { options with search := some value }
  | .url => .ok { options with url := some value }
  | .endpoint => .ok { options with endpoint := some value }
  | .logFile => do .ok { options with logFile := ← path .logFile value }
  | .config => do .ok { options with config := ← path .config value }
  | .settleDelay =>
      match readNumber value with
      | .ok delay => .ok { options with settleDelay := some delay }
      | .error fault => .error (.badNumber .settleDelay value fault)
  | .help | .version => .ok options

def accept (draft : Draft) (flag : Flag) (value : String) : Except Stop Draft :=
  if draft.given.contains flag then .error (.repeated flag)
  else do .ok { draft with options := ← store draft.options value flag, given := draft.given ++ [flag] }

def settle (draft : Draft) : Except Stop Draft :=
  match draft.pending with
  | none => .ok draft
  | some (flag, none) => .error (.missingValue flag)
  | some (flag, some value) => { draft with pending := none }.accept flag value

def flag (draft : Draft) (flag : Flag) (attached : Option String) : Except Stop Draft :=
  if flag.takesValue then do
    let draft ← draft.settle
    match attached with
    | none => .ok { draft with pending := some (flag, none) }
    | some value => draft.accept flag value
  else
    match attached with
    | some value => .error (.unneededValue flag value)
    | none => do
        let _ ← draft.settle
        .error (if flag = .version then .version else .help)

def long (draft : Draft) (text : List Char) : Except Stop Draft :=
  let name := String.ofList (text.takeWhile (· != '='))
  match Flag.ofLong? name, text.dropWhile (· != '=') with
  | none, _ => .error (.unexpected ("--" ++ name))
  | some flag, [] => draft.flag flag none
  | some flag, _ :: value => draft.flag flag (some (String.ofList value))

-- Reads an argument with one hyphen, in which the value of a flag may follow at once. None of the flags
-- without a value lets others follow.
def short (draft : Draft) (letter : Char) (text : List Char) : Except Stop Draft :=
  match Flag.ofShort? letter, text with
  | none, _ => .error (.unexpected ("-" ++ letter.toString))
  | some flag, [] => draft.flag flag none
  | some flag, '=' :: value =>
      draft.flag flag (if flag.takesValue then some (String.ofList value) else none)
  | some flag, value => draft.flag flag (if flag.takesValue then some (String.ofList value) else none)

def plain (draft : Draft) (argument : String) : Except Stop Draft :=
  match draft.pending with
  | some (flag, none) => .ok { draft with pending := some (flag, some argument) }
  | _ => .error (.unexpected argument)

-- Reads the arguments one after another. Behind two hyphens there are no flags.
def readAll (draft : Draft) : List String → Except Stop Draft
  | [] => draft.settle
  | argument :: rest =>
      match argument.toList with
      | ['-', '-'] =>
          match rest with
          | [] => draft.settle
          | next :: _ => .error (.unexpected next)
      | '-' :: '-' :: text => do readAll (← draft.long text) rest
      | '-' :: letter :: text => do readAll (← draft.short letter text) rest
      | _ => do readAll (← draft.plain argument) rest

end Draft

-- Reads a command line. A search and the URL of one exclude each other.
def read (arguments : List String) : Except Stop Options := do
  let draft ← Draft.readAll {} arguments
  match draft.given.filter fun flag => flag == .search || flag == .url with
  | flag :: other :: _ => .error (.conflict flag other)
  | _ => .ok draft.options

def Options.launch (options : Options) : Option String :=
  match options.search with
  | some search => some search
  | none => options.url.bind Search.launchSearch

def Options.override (options : Options) (config : Config) : Config :=
  { config with
    endpoint := options.endpoint.getD config.endpoint
    logFile := options.logFile <|> config.logFile
    settleDelay := options.settleDelay.getD config.settleDelay }

end ChainExplorer.CommandLine
