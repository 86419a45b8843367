import ChainExplorer.Json.Printer
import ChainExplorer.Json.Skip
import ChainExplorer.Search.Kind
import ChainExplorer.Text.Quoted

set_option autoImplicit false

namespace ChainExplorer.Search

open Json (Failure Value Next failAt failNext skipBlanks word)

structure Result where
  succeeded : Bool
  errorMessage : Option String
  kind : Kind
  object : Value
deriving Repr, BEq

namespace Result

def success (kind : Kind) (object : Value) : Result := ⟨true, none, kind, object⟩

def failure (message : String) : Result := ⟨false, some message, .unnamed, .null⟩

def encode (result : Result) : String :=
  let member (name : String) (text : List Char) : List Char := Json.printString name ++ ':' :: text
  let message := match result.errorMessage with
    | none => "null".toList
    | some text => Json.printString text
  let success := if result.succeeded then "true".toList else "false".toList
  String.ofList <| '\x7b' :: member "wasSuccess" success ++ ',' :: member "errorMessage" message
    ++ ',' :: member "objectType" (Json.printString result.kind.name)
    ++ ',' :: member "object" (Json.printValue result.object) ++ ['\x7d']

end Result

def describeNumber : Json.Number → String
  | .integer value => "integer `" ++ String.ofList (Json.printInteger value) ++ "`"
  | .double value => "floating point `" ++ String.ofList (Number.jsonDouble.write value) ++ "`"

def refuse {α : Type} (wanted : String) (text : List Char) : Except Failure α :=
  match text with
  | 'n' :: rest => do failAt (.wrongKind "null" wanted) (← word ['u', 'l', 'l'] rest)
  | 't' :: rest => do failAt (.wrongKind "boolean `true`" wanted) (← word ['r', 'u', 'e'] rest)
  | 'f' :: rest => do failAt (.wrongKind "boolean `false`" wanted) (← word ['a', 'l', 's', 'e'] rest)
  | '-' :: rest => do
      let (number, rest) ← Json.number true rest
      failAt (.wrongKind (describeNumber number) wanted) rest
  | '"' :: rest => do
      let (found, rest) ← Json.string rest
      failAt (.wrongKind ("string " ++ Text.quoted found) wanted) rest
  | '[' :: _ => failAt (.wrongKind "sequence" wanted) text
  | '\x7b' :: _ => failAt (.wrongKind "map" wanted) text
  | c :: _ =>
      if Json.isDigit c then do
        let (number, rest) ← Json.number false text
        failAt (.wrongKind (describeNumber number) wanted) rest
      else failNext .expectedValue text
  | [] => failAt .unfinishedValue []

def readBool (text : List Char) : Except Failure (Bool × List Char) :=
  match skipBlanks text with
  | 't' :: rest => do .ok (true, ← word ['r', 'u', 'e'] rest)
  | 'f' :: rest => do .ok (false, ← word ['a', 'l', 's', 'e'] rest)
  | rest => refuse "a boolean" rest

def readText (text : List Char) : Except Failure (String × List Char) :=
  match skipBlanks text with
  | '"' :: rest => Json.string rest
  | rest => refuse "a string" rest

def readOptionalText (text : List Char) : Except Failure (Option String × List Char) :=
  match skipBlanks text with
  | [] => failAt .unfinishedValue []
  | 'n' :: rest => do .ok (none, ← word ['u', 'l', 'l'] rest)
  | rest => do
      let (found, rest) ← readText rest
      .ok (some found, rest)

def readKind (text : List Char) : Except Failure (Kind × List Char) := do
  let (name, rest) ← readText text
  .ok (Kind.ofName name, rest)

def objectDepth : Nat := Json.depthLimit - 1

structure Draft where
  succeeded : Option Bool := none
  errorMessage : Option (Option String) := none
  kind : Option Kind := none
  object : Option Value := none

def Draft.finish (draft : Draft) (succeeded : Bool) : Result :=
  ⟨succeeded, draft.errorMessage.getD none, draft.kind.getD .unnamed, draft.object.getD .null⟩

inductive Member where
  | succeeded
  | errorMessage
  | kind
  | object
deriving Repr, DecidableEq

def Member.ofName? (name : String) : Option Member :=
  if name = "wasSuccess" then some .succeeded
  else if name = "errorMessage" then some .errorMessage
  else if name = "objectType" then some .kind
  else if name = "object" then some .object
  else none

def Draft.has (draft : Draft) : Member → Bool
  | .succeeded => draft.succeeded.isSome
  | .errorMessage => draft.errorMessage.isSome
  | .kind => draft.kind.isSome
  | .object => draft.object.isSome

def Draft.read (draft : Draft) (fuel : Nat) (text : List Char) : Member → Except Failure (Draft × List Char)
  | .succeeded => do
      let (value, rest) ← readBool text
      .ok ({ draft with succeeded := some value }, rest)
  | .errorMessage => do
      let (value, rest) ← readOptionalText text
      .ok ({ draft with errorMessage := some value }, rest)
  | .kind => do
      let (value, rest) ← readKind text
      .ok ({ draft with kind := some value }, rest)
  | .object => do
      let (value, rest) ← Json.readValue fuel objectDepth text
      .ok ({ draft with object := some value }, rest)

-- A member named twice is noticed after its name, blanks and the end of the object included.
def afterName (text : List Char) : List Char :=
  match skipBlanks text with
  | '\x7d' :: rest => rest
  | rest => rest

def readMembers : Nat → Draft → Next → Except Failure (Result × List Char)
  | 0, _, .done text | 0, _, .more text => failAt .unfinishedObject text
  | _ + 1, draft, .done rest =>
      match draft.succeeded with
      | some succeeded => .ok (draft.finish succeeded, rest)
      | none => failAt (.missingField "wasSuccess") rest
  | fuel + 1, draft, .more text => do
      let (name, rest) ← Json.string text
      match Member.ofName? name with
      | none => do
          let rest ← Json.skipValue (Json.fuelFor rest) (← Json.colon rest)
          readMembers fuel draft (← Json.nextMember rest)
      | some member =>
          if draft.has member then failAt (.duplicateField name) (afterName rest)
          else do
            let (draft, rest) ← draft.read (Json.fuelFor rest) (← Json.colon rest) member
            readMembers fuel draft (← Json.nextMember rest)

def endOfFour (text : List Char) : Except Failure (List Char) :=
  match skipBlanks text with
  | [] => failAt .unfinishedList []
  | ']' :: rest => .ok rest
  | ',' :: rest =>
      match skipBlanks rest with
      | ']' :: more => failNext .trailingComma (']' :: more)
      | rest => failNext .trailingCharacters rest
  | rest => failNext .trailingCharacters rest

-- Reads the given members from a list, in order; those the list lacks are left out.
def readItems (fuel : Nat) (draft : Draft) : List Member → Next → Except Failure (Draft × List Char)
  | _, .done rest => .ok (draft, rest)
  | [], .more rest => do .ok (draft, ← endOfFour rest)
  | [member], .more text => do
      let (draft, rest) ← draft.read fuel text member
      .ok (draft, ← endOfFour rest)
  | member :: members, .more text => do
      let (draft, rest) ← draft.read fuel text member
      readItems fuel draft members (← Json.nextItem rest)

def readResult (text : List Char) : Except Failure (Result × List Char) :=
  match skipBlanks text with
  | [] => failAt .unfinishedValue []
  | '\x7b' :: rest => do readMembers (rest.length + 1) {} (← Json.firstMember rest)
  | '[' :: rest => do
      let (draft, rest) ← readItems (Json.fuelFor rest) {} [.succeeded, .errorMessage, .kind, .object]
        (← Json.firstItem rest)
      match draft.succeeded with
      | some succeeded => .ok (draft.finish succeeded, rest)
      | none => failAt (.wrongLength 0 "struct SearchResult with 4 elements") rest
  | rest => refuse "struct SearchResult" rest

def Result.decode (text : String) : Except Failure Result := do
  let (result, rest) ← readResult text.toList
  Json.atEnd rest
  .ok result

def Kind.decode (text : String) : Except Failure Kind := do
  let (kind, rest) ← readKind text.toList
  Json.atEnd rest
  .ok kind

end ChainExplorer.Search
