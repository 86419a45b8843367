import ChainExplorer.Number.Word
import ChainExplorer.Toml.Moment
import ChainExplorer.Toml.Value

set_option autoImplicit false

namespace ChainExplorer.Toml

def isDecimal (c : Char) : Bool := '0' ≤ c && c ≤ '9'

def plainDigits? (isDigit : Char → Bool) : List Char → Option (List Char)
  | [] => none
  | [c] => if isDigit c then some [c] else none
  | c :: '_' :: rest => if isDigit c then (plainDigits? isDigit rest).map (c :: ·) else none
  | c :: rest => if isDigit c then (plainDigits? isDigit rest).map (c :: ·) else none

def digitsValue (base : Nat) (digits : List Char) : Nat :=
  digits.foldl (fun sum c =>
    sum * base + (if c.toNat ≤ 57 then c.toNat - 48 else if c.toNat ≤ 90 then c.toNat - 55 else c.toNat - 87)) 0

def splitSign : List Char → Bool × List Char
  | '+' :: rest => (false, rest)
  | '-' :: rest => (true, rest)
  | text => (false, text)

-- Decimal digits that do not start with a zero for nothing.
def wholeDigits? (text : List Char) : Option (List Char) :=
  match plainDigits? isDecimal text with
  | some ('0' :: _ :: _) => none
  | digits => digits

def fitting? (value : Int) : Option Value :=
  if -(Number.signedLimit : Int) ≤ value ∧ value < Number.signedLimit then some (.integer value) else none

def integer? (text : List Char) : Option Value :=
  match text with
  | '0' :: 'x' :: digits =>
      ((plainDigits? (fun c => isDecimal c || ('a' ≤ c && c ≤ 'f') || ('A' ≤ c && c ≤ 'F')) digits).map
        (digitsValue 16)).bind fun value => fitting? value
  | '0' :: 'o' :: digits =>
      ((plainDigits? (fun c => '0' ≤ c && c ≤ '7') digits).map (digitsValue 8)).bind fun value => fitting? value
  | '0' :: 'b' :: digits =>
      ((plainDigits? (fun c => c == '0' || c == '1') digits).map (digitsValue 2)).bind fun value => fitting? value
  | _ =>
      let (negative, digits) := splitSign text
      ((wholeDigits? digits).map (digitsValue 10)).bind fun value =>
        fitting? (if negative then -(value : Int) else value)

def scaled? (negative : Bool) (digits : Nat) (exponent : Int) : Option Value :=
  let leading : Int := exponent + (Nat.toDigits 10 digits).length
  let value :=
    if digits = 0 ∨ leading < -400 then 0.0
    else if 400 < leading then 1.0 / 0.0
    else Float.ofScientific digits (exponent < 0) exponent.natAbs
  if value.isInf then none else some (.float (if negative then -value else value))

def exponent? : List Char → Option Int
  | [] => some 0
  | mark :: rest =>
      if mark = 'e' ∨ mark = 'E' then
        let (negative, digits) := splitSign rest
        (plainDigits? isDecimal digits).map fun digits =>
          if negative then -(digitsValue 10 digits : Int) else digitsValue 10 digits
      else none

def fraction? : List Char → Option (List Char)
  | [] => some []
  | '.' :: digits => plainDigits? isDecimal digits
  | _ => none

def isExponentMark (c : Char) : Bool := c == 'e' || c == 'E'

def unsignedFloat? (negative : Bool) (text : List Char) : Option Value :=
  let mantissa := text.takeWhile (!isExponentMark ·)
  if text.any fun c => c == '.' || isExponentMark c then
    match wholeDigits? (mantissa.takeWhile (· != '.')), fraction? (mantissa.dropWhile (· != '.')),
        exponent? (text.dropWhile (!isExponentMark ·)) with
    | some whole, some fraction, some exponent =>
        scaled? negative (digitsValue 10 (whole ++ fraction)) (exponent - fraction.length)
    | _, _, _ => none
  else none

def float? (text : List Char) : Option Value :=
  let (negative, digits) := splitSign text
  if digits = "inf".toList then some (.float (if negative then -(1.0 / 0.0) else 1.0 / 0.0))
  else if digits = "nan".toList then some (.float (0.0 / 0.0))
  else unsignedFloat? negative digits

def word? (text : List Char) : Option Value :=
  if text = "true".toList then some (.boolean true)
  else if text = "false".toList then some (.boolean false)
  else
    match integer? text, Moment.read? text with
    | some value, _ => some value
    | none, some moment => some (.moment (String.ofList moment))
    | none, none => float? text

def endsWord (c : Char) : Bool :=
  c == ' ' || c == '\t' || c == '\n' || c == '\r' || c == ',' || c == ']' || c == '\x7d' || c == '#'

-- A word at the front of a text. A date and a time may be two words.
def takeWord (text : List Char) : List Char × List Char :=
  let first := text.takeWhile (!endsWord ·)
  let rest := text.dropWhile (!endsWord ·)
  match Moment.date? first, rest with
  | some (_, []), ' ' :: more =>
      if (more.head?.map isDecimal).getD false then
        (first ++ ' ' :: more.takeWhile (!endsWord ·), more.dropWhile (!endsWord ·))
      else (first, rest)
  | _, _ => (first, rest)

end ChainExplorer.Toml
