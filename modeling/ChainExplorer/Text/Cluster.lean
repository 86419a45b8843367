import ChainExplorer.Text.Cluster.Property

set_option autoImplicit false

namespace ChainExplorer.Text

inductive ClusterClass where
  | carriageReturn
  | lineFeed
  | control
  | extender
  | joiner
  | regional
  | prepended
  | spacingMark
  | leading
  | vowel
  | trailing
  | openSyllable
  | closedSyllable
  | other
deriving Repr, DecidableEq

def isPlainAscii (c : Char) : Bool := 0x20 ≤ c.toNat && c.toNat < 0x7F

-- Composed Korean syllables are laid out in groups of 28, the first of which has no final consonant.
def clusterClass (c : Char) : ClusterClass :=
  if isPlainAscii c then .other
  else if c = '\r' then .carriageReturn
  else if c = '\n' then .lineFeed
  else if c.toNat < 0x20 || (0x7F ≤ c.toNat && c.toNat < 0xA0) then .control
  else if c.toNat < 0xAD then .other
  else if c.toNat = 0x200D then .joiner
  else if 0xAC00 ≤ c.toNat && c.toNat ≤ 0xD7A3 then
    if (c.toNat - 0xAC00) % 28 = 0 then .openSyllable else .closedSyllable
  else if 0x1F1E6 ≤ c.toNat && c.toNat ≤ 0x1F1FF then .regional
  else if extenders.has c then .extender
  else if controls.has c then .control
  else if spacingMarks.has c then .spacingMark
  else if leadingConsonants.has c then .leading
  else if vowels.has c then .vowel
  else if trailingConsonants.has c then .trailing
  else if prepended.has c then .prepended
  else .other

inductive Conjunct where
  | none
  | consonant
  | linked
deriving Repr, DecidableEq

inductive Pictograph where
  | none
  | base
  | joined
deriving Repr, DecidableEq

structure ClusterContext where
  last : ClusterClass
  unpairedRegional : Bool
  conjunct : Conjunct
  pictograph : Pictograph

def isWideRangePictograph (c : Char) : Bool := 0xA9 ≤ c.toNat && pictographs.has c

def isConjunctConsonant (c : Char) : Bool := 0x900 ≤ c.toNat && conjunctConsonants.has c

def isConjunctLinker (c : Char) : Bool := 0x900 ≤ c.toNat && conjunctLinkers.has c

def ClusterContext.next (before : Option ClusterContext) (c : Char) : ClusterContext :=
  let class_ := clusterClass c
  let conjunct := (before.map (·.conjunct)).getD .none
  let pictograph := (before.map (·.pictograph)).getD .none
  { last := class_
    unpairedRegional := class_ == .regional && !(before.map (·.unpairedRegional)).getD false
    conjunct :=
      if isConjunctConsonant c then .consonant
      else if conjunct == .none then .none
      else if isConjunctLinker c then .linked
      else if class_ == .joiner || (class_ == .extender && c.toNat != 0x200C) then conjunct
      else .none
    pictograph :=
      if isWideRangePictograph c then .base
      else if class_ == .joiner && pictograph == .base then .joined
      else if class_ == .extender && pictograph == .base then .base
      else .none }

def ClusterClass.isSeparator : ClusterClass → Bool
  | .carriageReturn | .lineFeed | .control => true
  | _ => false

def ClusterClass.continuesSyllable : ClusterClass → ClusterClass → Bool
  | .leading, .leading | .leading, .vowel | .leading, .openSyllable | .leading, .closedSyllable => true
  | .openSyllable, .vowel | .openSyllable, .trailing | .vowel, .vowel | .vowel, .trailing => true
  | .closedSyllable, .trailing | .trailing, .trailing => true
  | _, _ => false

def ClusterContext.continues (context : ClusterContext) (c : Char) : Bool :=
  let class_ := clusterClass c
  if context.last == .carriageReturn && class_ == .lineFeed then true
  else if context.last.isSeparator || class_.isSeparator then false
  else if context.last.continuesSyllable class_ then true
  else if class_ == .extender || class_ == .joiner || class_ == .spacingMark then true
  else if context.last == .prepended then true
  else if context.conjunct == .linked && isConjunctConsonant c then true
  else if context.pictograph == .joined && isWideRangePictograph c then true
  else context.unpairedRegional && class_ == .regional

-- The clusters of `pending ++ rest`, where `pending` is an unfinished cluster with its last character
-- first.
def clustersFrom (context : ClusterContext) (pending : List Char) : List Char → List (List Char)
  | [] => [pending.reverse]
  | c :: rest =>
      let after := ClusterContext.next (some context) c
      if context.continues c then clustersFrom after (c :: pending) rest
      else pending.reverse :: clustersFrom after [c] rest

def clusters : List Char → List (List Char)
  | [] => []
  | c :: rest => clustersFrom (ClusterContext.next none c) [c] rest

end ChainExplorer.Text
