import ChainExplorer.Text.Ranges
import ChainExplorer.Text.Width.Property

set_option autoImplicit false

namespace ChainExplorer.Text

inductive Following where
  | plain
  | lineFeed
  | emojiSelector
  | textSelector
  | emoji
  | modifier
  | joinedEmoji
  | selectedJoinedEmoji
  | regional
  | regionals
  | joinedRegional
  | joinedRegionalPair
  | alef
  | lamed
  | joinedLamed
  | subscriptLetter
  | toneLetter
deriving Repr, DecidableEq

def isRegional (c : Char) : Bool := 0x1F1E6 ≤ c.toNat && c.toNat ≤ 0x1F1FF

def isModifier (c : Char) : Bool := 0x1F3FB ≤ c.toNat && c.toNat ≤ 0x1F3FF

def alefs : Ranges :=
  [(0x622, 0x623), (0x625, 0x625), (0x627, 0x627), (0x671, 0x673), (0x675, 0x675), (0x773, 0x774), (0x870, 0x882)]

def lams : Ranges :=
  [(0x644, 0x644), (0x6B5, 0x6B8), (0x76A, 0x76A), (0x8A6, 0x8A6), (0x8C7, 0x8C7)]

-- Khmer letters that a preceding sign puts below the line.
def subscriptLetters : Ranges :=
  [(0x1780, 0x1782), (0x1784, 0x1787), (0x1789, 0x178C), (0x178E, 0x1793), (0x1795, 0x1798), (0x179B, 0x179D),
   (0x17A0, 0x17A0), (0x17A2, 0x17A2), (0x17A7, 0x17A7), (0x17AB, 0x17AC), (0x17AF, 0x17AF)]

def charWidth (c : Char) : Nat :=
  if c.toNat < 0xAD then 1
  else if c.toNat = 0x17D8 then 3
  else if c.toNat = 0x115F || c.toNat = 0x17A4 then 2
  else if zeroWidth.has c then 0
  else if doubleWidth.has c then 2
  else 1

def leads (c : Char) : Following :=
  if c = '\n' then .lineFeed
  else if c.toNat < 0xAD then .plain
  else if c.toNat = 0xFE0F then .emojiSelector
  else if c.toNat = 0xFE0E then .textSelector
  else if isRegional c then .regional
  else if isModifier c then .modifier
  else if alefs.has c then .alef
  else if c.toNat = 0x5DC then .lamed
  else if subscriptLetters.has c then .subscriptLetter
  else if c.toNat = 0xA4FC || c.toNat = 0xA4FD then .toneLetter
  else if 0x231A ≤ c.toNat && emojiByDefault.has c then .emoji
  else .plain

-- The cells that a character adds in front of what follows, and what it is to the character before it.
def widthBefore (c : Char) (following : Following) : Int × Following :=
  let alone : Int × Following := (charWidth c, leads c)
  match following with
  | .plain | .lineFeed | .subscriptLetter | .toneLetter | .lamed | .regional | .regionals | .alef
  | .joinedLamed | .emoji | .modifier | .textSelector =>
      if c = '\r' && following == .lineFeed then (0, .plain)
      else if following == .textSelector && textOnRequest.has c then (1, .plain)
      else if following == .alef && lams.has c then (0, .plain)
      else if following == .alef && 0xAD ≤ c.toNat && zeroWidth.has c then (0, .alef)
      else if following == .lamed && c.toNat = 0x200D then (0, .joinedLamed)
      else if following == .joinedLamed && c.toNat = 0x5D0 then (0, .plain)
      else if following == .subscriptLetter && c.toNat = 0x17D2 then (-1, .plain)
      else if following == .toneLetter && 0xA4F8 ≤ c.toNat && c.toNat ≤ 0xA4FB then (0, .plain)
      else if following == .modifier && modifierBases.has c then (0, .emoji)
      else if (following == .regional || following == .regionals) && isRegional c then (1, .regionals)
      else if (following == .emoji || following == .modifier || following == .regionals) && c.toNat = 0x200D then
        (0, .joinedEmoji)
      else alone
  | .emojiSelector =>
      if emojiOnRequest.has c then (2, .emoji) else alone
  | .selectedJoinedEmoji =>
      if emojiOnRequest.has c then (0, .emoji) else alone
  | .joinedEmoji =>
      if c.toNat = 0xFE0F then (0, .selectedJoinedEmoji)
      else if isRegional c then (1, .joinedRegional)
      else if isModifier c then (0, .modifier)
      else if 0x231A ≤ c.toNat && emojiByDefault.has c then (0, .emoji)
      else alone
  | .joinedRegional =>
      if isRegional c then (-1, .joinedRegionalPair) else alone
  | .joinedRegionalPair =>
      if isRegional c then (3, .joinedRegional)
      else if c.toNat = 0x200D then (0, .joinedEmoji)
      else alone

def measure : List Char → Int × Following
  | [] => (0, .plain)
  | c :: rest =>
      let behind := measure rest
      let own := widthBefore c behind.2
      (own.1 + behind.1, own.2)

def width (text : List Char) : Nat := (measure text).1.toNat

end ChainExplorer.Text
