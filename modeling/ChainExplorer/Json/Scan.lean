import ChainExplorer.Json.Failure
import ChainExplorer.Json.Value
import ChainExplorer.Number.Hexadecimal
import ChainExplorer.Number.Word

set_option autoImplicit false

namespace ChainExplorer.Json

def isBlank (c : Char) : Bool := c == ' ' || c == '\n' || c == '\t' || c == '\r'

def skipBlanks (text : List Char) : List Char := text.dropWhile isBlank

def word : List Char → List Char → Except Failure (List Char)
  | [], text => .ok text
  | _ :: _, [] => failAt .unfinishedValue []
  | c :: letters, d :: text => if d = c then word letters text else failNext .expectedWord (d :: text)

def hexQuad (text : List Char) : Except Failure (Nat × List Char) :=
  match text with
  | a :: b :: c :: d :: rest =>
      match Number.hexNumeral? [a, b, c, d] with
      | some code => .ok (code, rest)
      | none => .error ⟨.invalidEscape, text, 4⟩
  | _ => if Text.byteLength text < 4 then failAt .unfinishedString [] else .error ⟨.invalidEscape, text, 4⟩

def isHighSurrogate (code : Nat) : Bool := 0xD800 ≤ code && code ≤ 0xDBFF

def isLowSurrogate (code : Nat) : Bool := 0xDC00 ≤ code && code ≤ 0xDFFF

-- A code above the basic plane is written as two surrogates, neither of which stands alone.
def codeEscape (text : List Char) : Except Failure (Char × List Char) := do
  let (high, rest) ← hexQuad text
  if isLowSurrogate high then failAt .loneSurrogate rest
  else if !isHighSurrogate high then .ok (Char.ofNat high, rest)
  else
    match rest with
    | [] => failAt .unfinishedString []
    | '\\' :: [] => failAt .unfinishedString []
    | '\\' :: 'u' :: more => do
        let (low, rest) ← hexQuad more
        if isLowSurrogate low then .ok (Char.ofNat (0x10000 + (high - 0xD800) * 1024 + (low - 0xDC00)), rest)
        else failAt .loneSurrogate rest
    | '\\' :: other => failNext .unfinishedSurrogate other
    | other => failNext .unfinishedSurrogate other

def escape : List Char → Except Failure (Char × List Char)
  | [] => failAt .unfinishedString []
  | '"' :: rest => .ok ('"', rest)
  | '\\' :: rest => .ok ('\\', rest)
  | '/' :: rest => .ok ('/', rest)
  | 'b' :: rest => .ok ('\x08', rest)
  | 'f' :: rest => .ok ('\x0C', rest)
  | 'n' :: rest => .ok ('\n', rest)
  | 'r' :: rest => .ok ('\r', rest)
  | 't' :: rest => .ok ('\t', rest)
  | 'u' :: rest => codeEscape rest
  | other => failNext .invalidEscape other

def stringBody : Nat → List Char → Except Failure (List Char × List Char)
  | 0, text => failAt .unfinishedString text
  | _ + 1, [] => failAt .unfinishedString []
  | fuel + 1, c :: rest =>
      if c = '"' then .ok ([], rest)
      else if c = '\\' then do
        let (escaped, rest) ← escape rest
        let (others, rest) ← stringBody fuel rest
        .ok (escaped :: others, rest)
      else if c.toNat < 0x20 then failAt .controlCharacter rest
      else do
        let (others, rest) ← stringBody fuel rest
        .ok (c :: others, rest)

def string (text : List Char) : Except Failure (String × List Char) := do
  let (chars, rest) ← stringBody (text.length + 1) text
  .ok (String.ofList chars, rest)

def isDigit (c : Char) : Bool := '0' ≤ c && c ≤ '9'

def digitValue (c : Char) : Nat := c.toNat - 48

def takeDigits (text : List Char) : List Char × List Char := (text.takeWhile isDigit, text.dropWhile isDigit)

-- Appends digits to a number for as long as it fits 64 bits; returns it with the number of digits appended.
def appendDigits (number used : Nat) : List Char → Nat × Nat
  | [] => (number, used)
  | c :: rest =>
      let longer := number * 10 + digitValue c
      if longer < Number.wordLimit then appendDigits longer (used + 1) rest else (number, used)

-- Divides by powers of ten that a double can hold, until nothing is left of the value.
def shrink : Nat → Float → Float
  | 0, value => value
  | steps + 1, value => if value == 0.0 then value else shrink steps (value / 1e308)

def tenTo (exponent : Nat) : Float := Float.ofScientific 1 false exponent

-- `significand` times ten to the power `exponent`, rounded after each step.
def scale (significand : Nat) (exponent : Int) : Option Float :=
  let value := significand.toUInt64.toFloat
  let size := exponent.natAbs
  if 0 ≤ exponent then
    if size ≤ 308 then
      let scaled := value * tenTo size
      if scaled.isInf then none else some scaled
    else if value == 0.0 then some value
    else none
  else
    let steps := (size - 1) / 308
    let shrunk := shrink steps value
    some (if shrunk == 0.0 && 0 < steps then shrunk else shrunk / tenTo (size - 308 * steps))

def double (negative : Bool) (significand : Nat) (exponent : Int) (rest : List Char) : Except Failure (Number × List Char) :=
  match scale significand exponent with
  | some value => .ok (.double (if negative then -value else value), rest)
  | none => failAt .numberOutOfRange rest

-- An exponent has to fit 32 bits with a sign; else the text after the digit that is too much is returned.
def exponentDigits (exponent : Nat) : List Char → Except (List Char) (Nat × List Char)
  | [] => .ok (exponent, [])
  | c :: rest =>
      if isDigit c then
        if exponent * 10 + digitValue c < Number.signedHalfLimit then exponentDigits (exponent * 10 + digitValue c) rest
        else .error rest
      else .ok (exponent, c :: rest)

def exponentPart (negative : Bool) (significand : Nat) (start : Int) (text : List Char) : Except Failure (Number × List Char) :=
  let (down, text) : Bool × List Char := match text with
    | '+' :: rest => (false, rest)
    | '-' :: rest => (true, rest)
    | _ => (false, text)
  match text with
  | [] => failAt .unfinishedValue []
  | c :: rest =>
      if isDigit c then
        match exponentDigits (digitValue c) rest with
        | .ok (exponent, rest) => double negative significand (if down then start - exponent else start + exponent) rest
        | .error rest =>
            if significand != 0 && !down then failAt .numberOutOfRange rest
            else .ok (.double (if negative then -0.0 else 0.0), rest.dropWhile isDigit)
      else failNext .invalidNumber text

-- The number with a fraction whose point has been read. Digits beyond 64 bits are not used.
def fractionPart (negative : Bool) (significand : Nat) (start : Int) (text : List Char) : Except Failure (Number × List Char) :=
  let (digits, rest) := takeDigits text
  if digits.isEmpty then
    match rest with
    | [] => failAt .unfinishedValue []
    | _ => failNext .invalidNumber rest
  else
    let (significand, used) := appendDigits significand 0 digits
    match rest with
    | 'e' :: more | 'E' :: more => exponentPart negative significand (start - used) more
    | _ => double negative significand (start - used) rest

-- A number after its integral digits, of which `unused` did not fit 64 bits.
def numberTail (negative : Bool) (significand unused : Nat) (rest : List Char) : Except Failure (Number × List Char) :=
  match rest with
  | '.' :: more => fractionPart negative significand unused more
  | 'e' :: more | 'E' :: more => exponentPart negative significand unused more
  | _ =>
      if 0 < unused then double negative significand unused rest
      else if !negative then .ok (.integer significand, rest)
      else if significand = 0 || Number.signedLimit < significand then .ok (.double (-significand.toUInt64.toFloat), rest)
      else .ok (.integer (-significand), rest)

def number (negative : Bool) (text : List Char) : Except Failure (Number × List Char) :=
  match text with
  | [] => failAt .unfinishedValue []
  | c :: rest =>
      if c = '0' then
        match rest with
        | d :: _ => if isDigit d then failNext .invalidNumber rest else numberTail negative 0 0 rest
        | [] => numberTail negative 0 0 rest
      else if isDigit c then
        let (digits, rest) := takeDigits text
        let (significand, used) := appendDigits 0 0 digits
        numberTail negative significand (digits.length - used) rest
      else failNext .invalidNumber text

end ChainExplorer.Json
