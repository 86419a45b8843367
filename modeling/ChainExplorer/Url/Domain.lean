import ChainExplorer.Text.Cluster.Property
import ChainExplorer.Text.Composition
import ChainExplorer.Text.Utf8
import ChainExplorer.Url.Domain.Label
import ChainExplorer.Url.Domain.Mapping
import ChainExplorer.Url.Punycode

set_option autoImplicit false

namespace ChainExplorer.Url.Domain

open Text (Bytes)

def forbidden : List Char :=
  [' ', '#', '%', '/', ':', '<', '>', '?', '@', '[', '\\', ']', '^', '|']

def isForbidden (c : Char) : Bool := c.toNat < 0x20 || c.toNat = 0x7F || forbidden.contains c

def encodedStart : List Char := "xn--".toList

def listedImage? (code : Nat) : Option (List Char) :=
  match images.reverse.find? (·.first ≤ code) with
  | none => none
  | some known => (known.words.toList.splitOn ' ')[code - known.first]?

def image? (c : Char) : Option (List Char) :=
  if c.toNat < 0x80 then if isForbidden c then none else some [c.toLower]
  else if disallowed.has c then none
  else if ignored.has c then some []
  else some ((listedImage? c.toNat).getD [c])

def imageOf? (text : List Char) : Option (List Char) :=
  (text.mapM image?).map fun images => Text.Composition.compose images.flatten

def isAscii (label : List Char) : Bool := label.all (·.toNat < 0x80)

-- The characters of a label. One in Punycode must stand for a label that is its own image, and not for one
-- in ASCII.
def labelText? (label : List Char) : Option (List Char) :=
  if encodedStart.isPrefixOf label then
    if isAscii label then
      (Punycode.decode (label.drop encodedStart.length)).filter fun text =>
        !isAscii text && imageOf? text = some text
    else none
  else some label

def encodeLabel (label : List Char) : List Char :=
  if isAscii label then label else encodedStart ++ Punycode.encode label

def toAscii (bytes : Bytes) : Option (List Char) := do
  let text ← Text.readUtf8? bytes
  let labels ← ((← imageOf? text).splitOn '.').mapM labelText?
  if labels.all fun label => isAscii label || isWellFormed label then
    if labels.any hasRightToLeft && !labels.all isDirected then none
    else some ((labels.map encodeLabel).intersperse ['.']).flatten
  else none

end ChainExplorer.Url.Domain
