import ChainExplorer.Text.Ranges
import ChainExplorer.Text.Cluster.Property
import ChainExplorer.Text.Case.Mapping

set_option autoImplicit false

namespace ChainExplorer.Text

def CaseRun.holds (run : CaseRun) (code : Nat) : Bool :=
  run.first ≤ code && code ≤ run.last && (code - run.first) % run.stride == 0

def otherCase (runs : List CaseRun) (expansions : List (Nat × List Nat)) (c : Char) : List Char :=
  match expansions.find? (·.1 == c.toNat) with
  | some entry => entry.2.map Char.ofNat
  | none =>
      match runs.find? (·.holds c.toNat) with
      | some run => [Char.ofNat (Int.toNat (c.toNat + run.shift))]
      | none => [c]

def upperChar (c : Char) : List Char :=
  if c.toNat < 0x80 then [c.toUpper] else otherCase upperRuns upperExpansions c

def lowerChar (c : Char) : List Char :=
  if c.toNat < 0x80 then [c.toLower] else otherCase lowerRuns lowerExpansions c

def upperChars (text : List Char) : List Char := text.flatMap upperChar

def upper (text : String) : String := String.ofList (upperChars text.toList)

def isCased (c : Char) : Bool := upperChar c != [c] || lowerChar c != [c]

def isCaseIgnorable (c : Char) : Bool :=
  ['\'', '.', ':', '^', '`', '¨', '\u00AD', '·', '’'].contains c || extenders.has c

def meetsCased : List Char → Bool
  | [] => false
  | c :: rest => if isCaseIgnorable c then meetsCased rest else isCased c

-- `before` is the text in front, last character first: a capital sigma at the end of a word has its own form.
def lowerFrom (before : List Char) : List Char → List Char
  | [] => []
  | c :: rest =>
      let own := if c = 'Σ' then
          if meetsCased before && !meetsCased rest then ['ς'] else ['σ']
        else lowerChar c
      own ++ lowerFrom (c :: before) rest

def lower (text : String) : String := String.ofList (lowerFrom [] text.toList)

end ChainExplorer.Text
