import ChainExplorer.Text.Cluster.Property
import ChainExplorer.Text.Composition
import ChainExplorer.Url.Domain.Property

set_option autoImplicit false

namespace ChainExplorer.Url.Domain

open Text (extenders spacingMarks)

inductive Direction where
  | leftToRight
  | rightToLeft
  | europeanDigit
  | arabicDigit
  -- A mark takes the direction of its letter.
  | mark
  | none
deriving Repr, DecidableEq

def Direction.of (c : Char) : Direction :=
  if c.toNat < 0x80 then
    if c.isDigit then .europeanDigit else if c.isAlpha then .leftToRight else .none
  else if Domain.rightToLeft.has c then .rightToLeft
  else if arabicDigits.has c then .arabicDigit
  else if europeanDigits.has c then .europeanDigit
  else if extenders.has c then .mark
  else if undirected.has c then .none
  else .leftToRight

def hasRightToLeft (label : List Char) : Bool :=
  label.any fun c => Direction.of c = .rightToLeft || Direction.of c = .arabicDigit

def isDirected (label : List Char) : Bool :=
  let directions := label.map Direction.of
  let last := (directions.reverse.dropWhile (· = .mark)).head?
  match directions with
  | [] => true
  | .leftToRight :: rest =>
      !rest.contains .rightToLeft && !rest.contains .arabicDigit
        && (last = some .leftToRight || last = some .europeanDigit)
  | .rightToLeft :: rest =>
      !rest.contains .leftToRight && !(rest.contains .europeanDigit && rest.contains .arabicDigit)
        && (last = some .rightToLeft || last = some .europeanDigit || last = some .arabicDigit)
  | _ => false

def isMark (c : Char) : Bool :=
  (extenders.has c || spacingMarks.has c || separateMarks.has c) && !(0x1F3FB ≤ c.toNat && c.toNat ≤ 0x1F3FF)

def vowelKillerRank : Nat := 9

-- `before` lists the characters in front of the joiner with the nearest first.
def mayStand (joiner : Char) (before after : List Char) : Bool :=
  before.head?.any (fun c => Text.Composition.rank c = vowelKillerRank) ||
    (joiner = '\u200C'
      && (before.dropWhile extenders.has).head?.any joinsNext.has
      && (after.dropWhile extenders.has).head?.any joinsPrevious.has)

def joinersStand (before : List Char) : List Char → Bool
  | [] => true
  | c :: rest =>
      (!(c = '\u200C' || c = '\u200D') || mayStand c before rest) && joinersStand (c :: before) rest

def isWellFormed (label : List Char) : Bool := !label.head?.any isMark && joinersStand [] label

end ChainExplorer.Url.Domain
