import ChainExplorer.Url.Percent

set_option autoImplicit false

namespace ChainExplorer.Url.Form

open Text (Bytes utf8 readUtf8)

def isPlain (byte : UInt8) : Bool :=
  let b := byte.toNat
  (48 ≤ b && b ≤ 57) || (65 ≤ b && b ≤ 90) || (97 ≤ b && b ≤ 122)
    || b == 0x2A || b == 0x2D || b == 0x2E || b == 0x5F

def writeByte (byte : UInt8) : List Char :=
  if byte = 0x20 then ['+'] else if isPlain byte then [Char.ofNat byte.toNat] else encodeByte byte

def write (text : List Char) : List Char := (utf8 text).flatMap writeByte

def writePair (name value : String) : List Char := write name.toList ++ '=' :: write value.toList

def read (bytes : Bytes) : List Char :=
  readUtf8 (percentDecode (bytes.map fun byte => if byte = 0x2B then 0x20 else byte))

def readPair (bytes : Bytes) : String × String :=
  (String.ofList (read (bytes.takeWhile (· != 0x3D))),
   String.ofList (read ((bytes.dropWhile (· != 0x3D)).drop 1)))

-- The pairs of a form. Nothing between two `&` is no pair.
def pairs (text : List Char) : List (String × String) :=
  (((utf8 text).splitOn 0x26).filter (!·.isEmpty)).map readPair

def lookup (name : String) (text : List Char) : Option String := (pairs text).lookup name

end ChainExplorer.Url.Form
