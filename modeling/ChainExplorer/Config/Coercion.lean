import ChainExplorer.Number.Format
import ChainExplorer.Number.Word
import ChainExplorer.Text.Case
import ChainExplorer.Text.Quoted
import ChainExplorer.Toml.Value

set_option autoImplicit false

namespace ChainExplorer.Config

open Toml (Value)

structure Mismatch where
  found : String
  wanted : String
deriving Repr, DecidableEq

def describeText (text : String) : String := "string " ++ Text.quoted text

-- The text of a double: positional, and without a point where there is no fraction.
def floatText (value : Float) : String :=
  if value.isNaN then "NaN"
  else if value.isInf then (if value < 0.0 then "-inf" else "inf")
  else String.ofList (Number.plainDouble.write value)

def asText : Value → Except Mismatch String
  | .string text | .moment text => .ok text
  | .integer value => .ok (toString value)
  | .float value => .ok (floatText value)
  | .boolean true => .ok "true"
  | .boolean false => .ok "false"
  | .array _ => .error ⟨"sequence", "a string"⟩
  | .table _ => .error ⟨"map", "a string"⟩

def isYes (word : String) : Bool := word == "true" || word == "on" || word == "yes"

def isNo (word : String) : Bool := word == "false" || word == "off" || word == "no"

def asBool : Value → Except Mismatch Bool
  | .boolean value => .ok value
  | .integer value => .ok (value != 0)
  | .float value => .ok (value != 0.0)
  | .string text | .moment text =>
      let word := Text.lower text
      if word == "1" || isYes word then .ok true
      else if word == "0" || isNo word then .ok false
      else .error ⟨describeText word, "a boolean"⟩
  | .array _ => .error ⟨"sequence", "a boolean"⟩
  | .table _ => .error ⟨"map", "a boolean"⟩

-- The value of a decimal numeral of 64 bits. A plus sign may stand before it.
def numeral? (text : String) : Option Nat :=
  let digits := match text.toList with
    | '+' :: rest => rest
    | digits => digits
  if digits.isEmpty ∨ digits.any (fun c => c < '0' || '9' < c) then none
  else
    let value := digits.foldl (fun sum c => sum * 10 + (c.toNat - 48)) 0
    if value < Number.wordLimit then some value else none

-- The nearest number of 64 bits; a half counts as a whole, and what is no number as zero.
def floatCount (value : Float) : Nat := value.round.toUInt64.toNat

def asCount : Value → Except Mismatch Nat
  | .integer value =>
      if value < 0 then
        .error ⟨"64-bit integer \x60" ++ toString value ++ "\x60", "an unsigned 64 bit or less integer"⟩
      else .ok value.toNat
  | .float value => .ok (floatCount value)
  | .boolean value => .ok (if value then 1 else 0)
  | .string text | .moment text =>
      let word := Text.lower text
      if isYes word then .ok 1
      else if isNo word then .ok 0
      else
        match numeral? text with
        | some value => .ok value
        | none => .error ⟨describeText text, "an integer"⟩
  | .array _ => .error ⟨"sequence", "an integer"⟩
  | .table _ => .error ⟨"map", "an integer"⟩

end ChainExplorer.Config
