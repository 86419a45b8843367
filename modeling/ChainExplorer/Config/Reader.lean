import ChainExplorer.Config.Basic
import ChainExplorer.Config.Coercion
import ChainExplorer.Toml.Reader

set_option autoImplicit false

namespace ChainExplorer.Config

open Toml (Value Document)

inductive Fault where
  | notToml
  | wrongKind (member : Member) (mismatch : Mismatch)
deriving Repr, DecidableEq

def Fault.message : Fault → String
  | .notToml => "TOML parse error"
  | .wrongKind member mismatch =>
      "invalid type: " ++ mismatch.found ++ ", expected " ++ mismatch.wanted ++ " for key \x60"
        ++ member.name ++ "\x60"

inductive Step where
  | member
  | item
deriving Repr, DecidableEq

def isNameChar (c : Char) : Bool := c.isAlphanum || c == '_' || c == '-'

-- The steps of a path after its first name. The fuel bounds their number.
def steps? : Nat → List Char → Option (List Step)
  | _, [] => some []
  | 0, _ :: _ => none
  | fuel + 1, '.' :: rest =>
      if (rest.takeWhile isNameChar).isEmpty then none
      else (steps? fuel (rest.dropWhile isNameChar)).map (.member :: ·)
  | fuel + 1, '[' :: rest =>
      let digits := match rest with
        | '-' :: digits => digits
        | digits => digits
      match digits.dropWhile Char.isDigit with
      | ']' :: more =>
          if (digits.takeWhile Char.isDigit).isEmpty then none else (steps? fuel more).map (.item :: ·)
      | _ => none
  | _ + 1, _ :: _ => none

-- A member of a document by the first name of its path, with a value of the kind into which the path leads.
-- A name that is no path stands for itself.
def resolve (name : String) (value : Value) : String × Value :=
  let chars := name.toList
  match steps? chars.length (chars.dropWhile isNameChar) with
  | some (.member :: _) => (String.ofList (chars.takeWhile isNameChar), .table [])
  | some (.item :: _) => (String.ofList (chars.takeWhile isNameChar), .array [])
  | _ => (name, value)

def find? (document : Document) (member : Member) : Option Value :=
  (document.map fun (name, value) => resolve name value).lookup member.name

def read {α : Type} (document : Document) (member : Member) (coerce : Value → Except Mismatch α)
    (fallback : α) : Except Fault α :=
  match find? document member with
  | none => .ok fallback
  | some value =>
      match coerce value with
      | .ok result => .ok result
      | .error mismatch => .error (.wrongKind member mismatch)

def ofDocument (document : Document) : Except Fault Config := do
  let endpoint ← read document .endpoint asText default.endpoint
  let settleDelay ← read document .settleDelay asCount default.settleDelay
  let logFile ← read document .logFile (fun value => (asText value).map some) default.logFile
  let ignoreStale ← read document .ignoreStale asBool default.ignoreStale
  let userAgent ← read document .userAgent (fun value => (asText value).map some) default.userAgent
  .ok { endpoint, settleDelay, logFile, ignoreStale, userAgent }

def decode (text : String) : Except Fault Config :=
  match Toml.read? text with
  | none => .error .notToml
  | some document => ofDocument document

end ChainExplorer.Config
