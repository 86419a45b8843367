import ChainExplorer.Text.Composition.Mark

set_option autoImplicit false

namespace ChainExplorer.Text.Composition

def rank (c : Char) : Nat :=
  match markRuns.find? fun run => run.first ≤ c.toNat && c.toNat ≤ run.last with
  | some run => run.rank
  | none => 0

-- The Korean syllable of a leading consonant and a vowel, or of a syllable and a trailing consonant.
def joinSyllable? (base next : Nat) : Option Nat :=
  if 0x1100 ≤ base ∧ base ≤ 0x1112 ∧ 0x1161 ≤ next ∧ next ≤ 0x1175 then
    some (0xAC00 + ((base - 0x1100) * 21 + (next - 0x1161)) * 28)
  else if 0xAC00 ≤ base ∧ base ≤ 0xD7A3 ∧ (base - 0xAC00) % 28 = 0 ∧ 0x11A8 ≤ next ∧ next ≤ 0x11C2 then
    some (base + (next - 0x11A7))
  else none

def join? (base next : Char) : Option Char :=
  match joinSyllable? base.toNat next.toNat with
  | some code => some (Char.ofNat code)
  | none =>
      (joins.filter (·.mark = next.toNat)).findSome? fun joins =>
        ((joins.bases.zip joins.composites).lookup base.toNat).map Char.ofNat

def splitSyllable? (code : Nat) : Option (Nat × Nat) :=
  if 0xAC00 ≤ code ∧ code ≤ 0xD7A3 then
    let index := code - 0xAC00
    if index % 28 = 0 then some (0x1100 + index / 588, 0x1161 + index % 588 / 28)
    else some (code - index % 28, 0x11A7 + index % 28)
  else none

def split? (c : Char) : Option (Char × Char) :=
  match splitSyllable? c.toNat with
  | some (base, next) => some (Char.ofNat base, Char.ofNat next)
  | none =>
      joins.findSome? fun joins =>
        ((joins.composites.zip joins.bases).lookup c.toNat).map fun base => (Char.ofNat base, Char.ofNat joins.mark)

def splitDepth : Nat := 4

def decomposeChar : Nat → Char → List Char
  | 0, c => [c]
  | depth + 1, c =>
      match split? c with
      | some (base, mark) => decomposeChar depth base ++ [mark]
      | none => [c]

-- Puts a character before a text, behind the marks of lower rank.
def placeMark (c : Char) : List Char → List Char
  | [] => [c]
  | d :: rest => if 0 < rank d ∧ rank d < rank c then d :: placeMark c rest else c :: d :: rest

def decompose (text : List Char) : List Char :=
  (text.flatMap (decomposeChar splitDepth)).foldr placeMark []

-- `marks` are those that the letter does not join with, the last of which has the rank `last`.
def joinFrom (letter : Char) (marks : List Char) (last : Nat) : List Char → List Char
  | [] => letter :: marks
  | c :: rest =>
      match if marks.isEmpty ∨ last < rank c then join? letter c else none with
      | some joined => joinFrom joined marks last rest
      | none =>
          if rank c = 0 then letter :: marks ++ joinFrom c [] 0 rest
          else joinFrom letter (marks ++ [c]) (rank c) rest

def compose (text : List Char) : List Char :=
  let chars := decompose text
  let marks := chars.takeWhile (0 < rank ·)
  match chars.drop marks.length with
  | [] => marks
  | letter :: rest => marks ++ joinFrom letter [] 0 rest

end ChainExplorer.Text.Composition
