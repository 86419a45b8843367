import ChainExplorer.Url.Domain
import ChainExplorer.Url.Percent

set_option autoImplicit false

namespace ChainExplorer.Url

inductive Problem where
  | emptyHost
  | badDomain
  | badPort
  | badAddress4
  | badAddress6
  | badHostCharacter
  | noScheme
deriving Repr, DecidableEq

def Problem.message : Problem → String
  | .emptyHost => "empty host"
  | .badDomain => "invalid international domain name"
  | .badPort => "invalid port number"
  | .badAddress4 => "invalid IPv4 address"
  | .badAddress6 => "invalid IPv6 address"
  | .badHostCharacter => "invalid domain character"
  | .noScheme => "relative URL without a base"

inductive Host where
  | name (text : List Char)
  | address4 (value : Nat)
  | address6 (pieces : List Nat)
deriving Repr, DecidableEq

namespace Host

def numeral? (base : Nat) (digits : List Char) : Option Nat :=
  digits.foldl (fun sum c =>
    match sum, Number.hexValue? c with
    | some sum, some digit => if digit < base then some (sum * base + digit) else none
    | _, _ => none) (some 0)

def part4? : List Char → Option Nat
  | [] => none
  | '0' :: 'x' :: digits | '0' :: 'X' :: digits => numeral? 16 digits
  | ['0'] => some 0
  | '0' :: digits => numeral? 8 digits
  | digits => numeral? 10 digits

-- The parts of a domain between its dots; a dot at the end starts no further part.
def parts (domain : List Char) : List (List Char) :=
  let all := domain.splitOn '.'
  if 1 < all.length ∧ all.getLast? = some [] then all.dropLast else all

def endsInNumber (domain : List Char) : Bool :=
  match (parts domain).getLast? with
  | none | some [] => false
  | some last => last.all (fun c => 48 ≤ c.toNat && c.toNat ≤ 57) || (part4? last).isSome

-- The address with the given parts: the last one fills all places that the others leave.
def join4 (values : List Nat) : Option Nat :=
  match values.reverse with
  | [] => none
  | last :: others =>
      if 4 < values.length ∨ others.any (255 < ·) ∨ Nat.pow 256 (5 - values.length) ≤ last then none
      else
        let places := (others.reverse.zipIdx).map fun (value, index) => value * Nat.pow 256 (3 - index)
        some (places.foldr (· + ·) last)

def address4? (domain : List Char) : Option Nat := ((parts domain).mapM part4?).bind join4

def byte4? (digits : List Char) : Option Nat :=
  match digits with
  | [] => none
  | ['0'] => some 0
  | '0' :: _ => none
  | _ => (numeral? 10 digits).filter (· ≤ 255)

def tail6? (text : List Char) : Option (List Nat) :=
  match (text.splitOn '.').mapM byte4? with
  | some [a, b, c, d] => some [a * 256 + b, c * 256 + d]
  | _ => none

def piece6? (digits : List Char) : Option (List Nat) :=
  if 0 < digits.length ∧ digits.length ≤ 4 then (numeral? 16 digits).map ([·]) else none

-- The pieces of an address; the last may be written as four numbers where `tail` allows it.
def joinPieces6? (tail : Bool) : List (List Char) → Option (List Nat)
  | [] => some []
  | [last] => if tail && last.contains '.' then tail6? last else piece6? last
  | digits :: rest =>
      match piece6? digits, joinPieces6? tail rest with
      | some piece, some pieces => some (piece ++ pieces)
      | _, _ => none

def pieces6? (tail : Bool) (text : List Char) : Option (List Nat) :=
  if text.isEmpty then some [] else joinPieces6? tail (text.splitOn ':')

def splitAtColons : List Char → Option (List Char × List Char)
  | ':' :: ':' :: rest => some ([], rest)
  | c :: rest => (splitAtColons rest).map fun (before, after) => (c :: before, after)
  | [] => none

-- An address of the sixth version; a pair of colons stands for pieces that are zero.
def address6? (text : List Char) : Option (List Nat) :=
  match splitAtColons text with
  | none => (pieces6? true text).filter (·.length = 8)
  | some (before, after) =>
      match pieces6? false before, pieces6? true after with
      | some first, some last =>
          if first.length + last.length ≤ 7 then
            some (first ++ List.replicate (8 - first.length - last.length) 0 ++ last)
          else none
      | _, _ => none

def bracketed (text : List Char) : Except Problem Host :=
  if text.getLast? = some ']' then
    match address6? (text.drop 1).dropLast with
    | some pieces => .ok (.address6 pieces)
    | none => .error .badAddress6
  else .error .badAddress6

def parse (text : List Char) : Except Problem Host :=
  if text.head? = some '[' then bracketed text
  else
    match Domain.toAscii (percentDecode (Text.utf8 text)) with
    | none => .error .badDomain
    | some [] => .error .emptyHost
    | some domain =>
        if endsInNumber domain then
          match address4? domain with
          | some address => .ok (.address4 address)
          | none => .error .badAddress4
        else .ok (.name domain)

def forbidden : List Char :=
  ['\x00', '\t', '\n', '\r', ' ', '#', '/', ':', '<', '>', '?', '@', '[', '\\', ']', '^', '|']

def parseOpaque (text : List Char) : Except Problem Host :=
  if text.head? = some '[' then bracketed text
  else if text.any forbidden.contains then .error .badHostCharacter
  else .ok (.name (percentEncode .controls text))

def piecesText (pieces : List Nat) : List Char :=
  ((pieces.map (Nat.toDigits 16)).intersperse [':']).flatten

def leadingZeros (pieces : List Nat) : Nat := (pieces.takeWhile (· = 0)).length

def zeroRun (pieces : List Nat) : Nat × Nat :=
  (List.range pieces.length).foldl (fun best index =>
    let length := leadingZeros (pieces.drop index)
    if best.2 < length then (index, length) else best) (0, 0)

-- An address of the sixth version, with a pair of colons for the longest run of two zeros or more.
def address6Text (pieces : List Nat) : List Char :=
  let (start, length) := zeroRun pieces
  if 2 ≤ length then
    piecesText (pieces.take start) ++ [':', ':'] ++ piecesText (pieces.drop (start + length))
  else piecesText pieces

def address4Text (value : Nat) : List Char :=
  let byte (place : Nat) : List Char := Nat.toDigits 10 (value / Nat.pow 256 place % 256)
  (([byte 3, byte 2, byte 1, byte 0]).intersperse ['.']).flatten

def text : Host → List Char
  | .name text => text
  | .address4 value => address4Text value
  | .address6 pieces => '[' :: address6Text pieces ++ [']']

end Host
end ChainExplorer.Url
