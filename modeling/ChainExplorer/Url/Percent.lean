import ChainExplorer.Number.Hexadecimal
import ChainExplorer.Text.Utf8

set_option autoImplicit false

namespace ChainExplorer.Url

open Text (Bytes)

def encodeByte (byte : UInt8) : List Char :=
  ['%', Number.upperHexDigit (byte.toNat / 16), Number.upperHexDigit (byte.toNat % 16)]

-- Characters that are encoded in a part of a URL, besides controls and all characters outside ASCII.
abbrev EncodeSet := List Char

namespace EncodeSet

def controls : EncodeSet := []

def fragment : EncodeSet := [' ', '"', '<', '>', '\x60']

def query : EncodeSet := [' ', '"', '#', '<', '>']

def specialQuery : EncodeSet := '\'' :: query

def path : EncodeSet := ['#', '?', '\x7b', '\x7d'] ++ fragment

def userinfo : EncodeSet := ['/', ':', ';', '=', '@', '[', '\\', ']', '^', '|'] ++ path

end EncodeSet

def mustEncode (set : EncodeSet) (c : Char) : Bool :=
  c.toNat < 0x20 || 0x7E < c.toNat || set.contains c

def percentEncode (set : EncodeSet) (text : List Char) : List Char :=
  text.flatMap fun c => if mustEncode set c then (String.utf8EncodeChar c).flatMap encodeByte else [c]

-- A percent sign without two digits stands for itself.
def percentDecode : Bytes → Bytes
  | [] => []
  | [a] => [a]
  | [a, b] => [a, b]
  | a :: b :: c :: rest =>
      if a = 0x25 then
        match Number.hexNumeral? [Char.ofNat b.toNat, Char.ofNat c.toNat] with
        | some value => UInt8.ofNat value :: percentDecode rest
        | none => a :: percentDecode (b :: c :: rest)
      else a :: percentDecode (b :: c :: rest)

end ChainExplorer.Url
