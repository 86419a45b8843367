set_option autoImplicit false

namespace ChainExplorer.Text

abbrev Bytes := List UInt8

def utf8 (text : List Char) : Bytes := text.flatMap String.utf8EncodeChar

def replacement : Char := '\uFFFD'

structure Started where
  missing : Nat
  low : Nat
  high : Nat
  bits : Nat
deriving Repr, DecidableEq

-- What the first byte of a character is: a character by itself, the start of a longer one, or neither.
inductive FirstByte where
  | whole (c : Char)
  | start (started : Started)
  | stray
deriving Repr, DecidableEq

def firstByte (byte : UInt8) : FirstByte :=
  let b := byte.toNat
  if b < 0x80 then .whole (Char.ofNat b)
  else if 0xC2 ≤ b && b ≤ 0xDF then .start ⟨1, 0x80, 0xBF, b - 0xC0⟩
  else if 0xE0 ≤ b && b ≤ 0xEF then
    .start ⟨2, if b = 0xE0 then 0xA0 else 0x80, if b = 0xED then 0x9F else 0xBF, b - 0xE0⟩
  else if 0xF0 ≤ b && b ≤ 0xF4 then
    .start ⟨3, if b = 0xF0 then 0x90 else 0x80, if b = 0xF4 then 0x8F else 0xBF, b - 0xF0⟩
  else .stray

mutual
def readRest (started : Started) : Bytes → List Char
  | [] => [replacement]
  | byte :: rest =>
      if started.low ≤ byte.toNat ∧ byte.toNat ≤ started.high then
        let bits : Nat := started.bits * 64 + (byte.toNat - 0x80)
        if started.missing ≤ 1 then Char.ofNat bits :: readUtf8 rest
        else readRest ⟨started.missing - 1, 0x80, 0xBF, bits⟩ rest
      else
        match firstByte byte with
        | .whole c => replacement :: c :: readUtf8 rest
        | .start next => replacement :: readRest next rest
        | .stray => replacement :: replacement :: readUtf8 rest

def readUtf8 : Bytes → List Char
  | [] => []
  | byte :: rest =>
      match firstByte byte with
      | .whole c => c :: readUtf8 rest
      | .start started => readRest started rest
      | .stray => replacement :: readUtf8 rest
end

def readUtf8? (bytes : Bytes) : Option (List Char) :=
  let text := readUtf8 bytes
  if utf8 text = bytes then some text else none

end ChainExplorer.Text
