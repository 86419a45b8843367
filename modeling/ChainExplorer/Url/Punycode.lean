import ChainExplorer.Number.Word

set_option autoImplicit false

namespace ChainExplorer.Url.Punycode

def base : Nat := 36

def leastThreshold : Nat := 1

def greatestThreshold : Nat := 26

def firstBias : Nat := 72

def firstCode : Nat := 128

def digitChar (d : Nat) : Char := Char.ofNat (if d < 26 then 97 + d else 22 + d)

def digitValue? (c : Char) : Option Nat :=
  let n := c.toNat
  if 97 ≤ n ∧ n ≤ 122 then some (n - 97)
  else if 65 ≤ n ∧ n ≤ 90 then some (n - 65)
  else if 48 ≤ n ∧ n ≤ 57 then some (n - 22)
  else none

-- The weight of the digit at position `k`, which counts in steps of the base.
def threshold (bias k : Nat) : Nat :=
  if k ≤ bias + leastThreshold then leastThreshold
  else if bias + greatestThreshold ≤ k then greatestThreshold
  else k - bias

def damp : Nat → Nat → Nat → Nat × Nat
  | 0, delta, k => (delta, k)
  | fuel + 1, delta, k =>
      if 455 < delta then damp fuel (delta / 35) (k + base) else (delta, k)

-- The bias after a difference, when `count` characters have been written.
def adapt (delta count : Nat) (first : Bool) : Nat :=
  let delta : Nat := if first then delta / 700 else delta / 2
  let delta : Nat := delta + delta / count
  let (delta, k) := damp (Nat.log2 delta + 1) delta 0
  k + base * delta / (delta + 38)

def writeNumber (bias : Nat) : Nat → Nat → Nat → List Char
  | 0, _, _ => []
  | fuel + 1, k, q =>
      let t := threshold bias k
      if q < t then [digitChar q]
      else digitChar (t + (q - t) % (base - t)) :: writeNumber bias fuel (k + base) ((q - t) / (base - t))

structure Writer where
  output : List Char
  delta : Nat
  bias : Nat
  count : Nat
deriving Repr

def Writer.pass (ascii code : Nat) (writer : Writer) (c : Char) : Writer :=
  if c.toNat < code then { writer with delta := writer.delta + 1 }
  else if c.toNat = code then
    { output := writer.output ++ writeNumber writer.bias (Nat.log2 writer.delta + 2) base writer.delta
      delta := 0
      bias := adapt writer.delta (writer.count + 1) (writer.count == ascii)
      count := writer.count + 1 }
  else writer

def writeCodes (text : List Char) (ascii : Nat) : List Nat → Nat → Writer → Writer
  | [], _, writer => writer
  | next :: rest, code, writer =>
      let ready := { writer with delta := writer.delta + (next - code) * (writer.count + 1) }
      let written := text.foldl (Writer.pass ascii next) ready
      writeCodes text ascii rest (next + 1) { written with delta := written.delta + 1 }

def encode (text : List Char) : List Char :=
  let ascii := text.filter (·.toNat < firstCode)
  let codes := (((text.map Char.toNat).filter (firstCode ≤ ·)).mergeSort).eraseDups
  let start := if ascii.isEmpty then [] else ascii ++ ['-']
  (writeCodes text ascii.length codes firstCode ⟨start, 0, firstBias, ascii.length⟩).output

def readNumber (bias : Nat) : Nat → Nat → Nat → List Char → Option (Nat × List Char)
  | _, _, _, [] => none
  | k, weight, sum, c :: rest =>
      match digitValue? c with
      | none => none
      | some digit =>
          let sum := sum + digit * weight
          let t := threshold bias k
          if Number.halfWordLimit ≤ sum then none
          else if digit < t then some (sum, rest)
          else readNumber bias (k + base) (weight * (base - t)) sum rest

-- Reads the differences and puts the characters in their places. `place` is where the last one went.
def readCodes : Nat → Nat → Nat → Nat → List Char → List Char → Option (List Char)
  | _, _, _, _, text, [] => some text
  | 0, _, _, _, _, _ :: _ => none
  | fuel + 1, code, place, bias, text, digits =>
      match readNumber bias base 1 0 digits with
      | none => none
      | some (delta, rest) =>
          let size := text.length + 1
          let position : Nat := place + delta
          let code : Nat := code + position / size
          let next : Nat := position % size
          if Nat.isValidChar code then
            readCodes fuel code (next + 1) (adapt delta size (place == 0))
              (text.take next ++ Char.ofNat code :: text.drop next) rest
          else none

-- What stands before the last hyphen, and what behind it. A hyphen at the start has nothing before it and
-- parts nothing.
def splitAtLastHyphen (text : List Char) : List Char × List Char :=
  let behind := (text.reverse.takeWhile (· != '-')).reverse
  match text.take (text.length - behind.length - 1) with
  | [] => ([], text)
  | ascii => (ascii, behind)

def decode (text : List Char) : Option (List Char) :=
  if text.all (·.toNat < firstCode) then
    let (ascii, digits) := splitAtLastHyphen text
    readCodes (digits.length + 1) firstCode 0 firstBias ascii digits
  else none

end ChainExplorer.Url.Punycode
