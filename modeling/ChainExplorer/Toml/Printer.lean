import ChainExplorer.Number.Hexadecimal
import ChainExplorer.Toml.Value

set_option autoImplicit false

namespace ChainExplorer.Toml

def longestRun (c : Char) (text : List Char) : Nat :=
  (text.foldl (fun (state : Nat × Nat) d =>
    if d = c then (state.1 + 1, max state.2 (state.1 + 1)) else (0, state.2)) (0, 0)).2

inductive Quotes where
  | basic
  | literal
  | basicLines
  | literalLines
deriving Repr, DecidableEq

def hasControl (text : List Char) : Bool :=
  text.any fun c => (c.toNat < 0x20 && c != '\t' && c != '\n') || c.toNat == 0x7F

def quotesFor (text : List Char) : Quotes :=
  let lines := text.contains '\n'
  let backslash := text.contains '\\'
  if hasControl text then (if lines then .basicLines else .basic)
  else if !backslash && longestRun '"' text == 0 && !lines then .basic
  else if longestRun '\'' text == 0 && !lines then .literal
  else if !backslash && longestRun '"' text ≤ 2 then .basicLines
  else if longestRun '\'' text ≤ 2 then .literalLines
  else if lines then .basicLines
  else .basic

-- The escape of a character that needs one in a basic string, quotes and line ends apart.
def escape? (c : Char) : Option (List Char) :=
  if c = '\x08' then some ['\\', 'b']
  else if c = '\t' then some ['\\', 't']
  else if c = '\x0C' then some ['\\', 'f']
  else if c = '\r' then some ['\\', 'r']
  else if c = '\\' then some ['\\', '\\']
  else if (c.toNat < 0x20 ∧ c ≠ '\n') ∨ c.toNat = 0x7F then
    some ['\\', 'u', '0', '0', Number.upperHexDigit (c.toNat / 16), Number.upperHexDigit (c.toNat % 16)]
  else none

-- The characters of a basic string. Quotes are escaped where more than `allowed` would stand side by side;
-- `run` of them stand before.
def basicBody (lines : Bool) (allowed : Nat) : Nat → List Char → List Char
  | _, [] => []
  | run, c :: rest =>
      if c = '"' then
        if allowed < run + 1 then '\\' :: '"' :: basicBody lines allowed 0 rest
        else '"' :: basicBody lines allowed (run + 1) rest
      else if c = '\n' ∧ !lines then '\\' :: 'n' :: basicBody lines allowed 0 rest
      else
        match escape? c with
        | some escaped => escaped ++ basicBody lines allowed 0 rest
        | none => c :: basicBody lines allowed 0 rest

def lineStart (text : List Char) : List Char := if text.contains '\n' then ['\n'] else []

def writeString (text : List Char) : List Char :=
  match quotesFor text with
  | .basic => '"' :: basicBody false 0 0 text ++ ['"']
  | .literal => '\'' :: text ++ ['\'']
  | .basicLines => ['"', '"', '"'] ++ lineStart text ++ basicBody true 2 0 text ++ ['"', '"', '"']
  | .literalLines => ['\'', '\'', '\''] ++ lineStart text ++ text ++ ['\'', '\'', '\'']

end ChainExplorer.Toml
