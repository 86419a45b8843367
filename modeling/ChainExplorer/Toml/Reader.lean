import ChainExplorer.Toml.Scalar
import ChainExplorer.Toml.Text
import ChainExplorer.Toml.Tree

set_option autoImplicit false

namespace ChainExplorer.Toml

def depthLimit : Nat := 80

def skipLines : Nat → List Char → List Char
  | 0, text => text
  | fuel + 1, text =>
      let rest := skipComment (skipBlanks text)
      match lineEnd? rest with
      | some more => skipLines fuel more
      | none => rest

def skipFiller (text : List Char) : List Char := skipLines (text.length + 1) text

mutual
-- Reads a value. The fuel bounds the steps, and `depth` how many arrays and tables it may hold in one
-- another.
def value? : Nat → Nat → List Char → Option (Value × List Char)
  | 0, _, _ => none
  | fuel + 1, depth, text =>
      match text with
      | '[' :: rest =>
          match depth with
          | 0 => none
          | depth + 1 => (items? fuel depth (skipFiller rest)).map fun (items, rest) => (.array items, rest)
      | '\x7b' :: rest =>
          match depth with
          | 0 => none
          | depth + 1 =>
              match skipBlanks rest with
              | '\x7d' :: rest => some (.table [], rest)
              | rest => (members? fuel depth [] rest).map fun (members, rest) => (.table (toDocument members), rest)
      | '"' :: _ | '\'' :: _ => (string? text).map fun (chars, rest) => (.string (String.ofList chars), rest)
      | _ =>
          let (word, rest) := takeWord text
          (word? word).map fun value => (value, rest)

-- The items of an array up to its end. A comma may stand behind the last one.
def items? : Nat → Nat → List Char → Option (List Value × List Char)
  | 0, _, _ => none
  | fuel + 1, depth, text =>
      match text with
      | ']' :: rest => some ([], rest)
      | _ =>
          match value? fuel depth text with
          | none => none
          | some (item, rest) =>
              match skipFiller rest with
              | ',' :: rest =>
                  (items? fuel depth (skipFiller rest)).map fun (items, rest) => (item :: items, rest)
              | ']' :: rest => some ([item], rest)
              | _ => none

def members? : Nat → Nat → Members → List Char → Option (Members × List Char)
  | 0, _, _, _ => none
  | fuel + 1, depth, members, text =>
      match key? (text.length + 1) text with
      | some (names, '=' :: rest) =>
          match value? fuel depth (skipBlanks rest) with
          | none => none
          | some (value, rest) =>
              match members.define names value, skipBlanks rest with
              | some members, ',' :: rest => members? fuel depth members rest
              | some members, '\x7d' :: rest => some (members, rest)
              | _, _ => none
      | _ => none
end

structure Draft where
  members : Members
  header : List String

def header? (draft : Draft) (text : List Char) : Option (Draft × List Char) :=
  match text with
  | '[' :: rest =>
      match key? (rest.length + 1) rest with
      | some (names, ']' :: ']' :: rest) =>
          (draft.members.atHeader Members.openNext names).map fun members => (⟨members, names⟩, rest)
      | _ => none
  | _ =>
      match key? (text.length + 1) text with
      | some (names, ']' :: rest) =>
          (draft.members.atHeader Members.openTable names).map fun members => (⟨members, names⟩, rest)
      | _ => none

def assignment? (draft : Draft) (text : List Char) : Option (Draft × List Char) :=
  match key? (text.length + 1) text with
  | some (names, '=' :: rest) =>
      match value? (2 * rest.length + 2) depthLimit (skipBlanks rest) with
      | none => none
      | some (value, rest) =>
          (draft.members.within (fun members => members.define names value) draft.header).map fun members =>
            ({ draft with members }, rest)
  | _ => none

def statement? (draft : Draft) (text : List Char) : Option (Draft × List Char) :=
  match text with
  | '[' :: rest => header? draft rest
  | _ => assignment? draft text

def lines? : Nat → Draft → List Char → Option Draft
  | 0, _, _ => none
  | fuel + 1, draft, text =>
      match skipFiller text with
      | [] => some draft
      | text =>
          match statement? draft text with
          | none => none
          | some (draft, rest) =>
              match endLine? rest with
              | none => none
              | some rest => lines? fuel draft rest

def withoutMark : List Char → List Char
  | '\uFEFF' :: rest => rest
  | text => text

def read? (text : String) : Option Document :=
  let text := withoutMark text.toList
  (lines? (text.length + 1) ⟨[], []⟩ text).map fun draft => toDocument draft.members

end ChainExplorer.Toml
