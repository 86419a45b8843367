import ChainExplorer.Json.Scan

set_option autoImplicit false

namespace ChainExplorer.Json

def depthLimit : Nat := 127

inductive Next where
  | done (rest : List Char)
  | more (rest : List Char)

def firstItem (text : List Char) : Except Failure Next :=
  match skipBlanks text with
  | [] => failAt .unfinishedList []
  | ']' :: rest => .ok (.done rest)
  | rest => .ok (.more rest)

def nextItem (text : List Char) : Except Failure Next :=
  match skipBlanks text with
  | [] => failAt .unfinishedList []
  | ']' :: rest => .ok (.done rest)
  | ',' :: rest =>
      match skipBlanks rest with
      | [] => failAt .unfinishedValue []
      | ']' :: more => failNext .trailingComma (']' :: more)
      | rest => .ok (.more rest)
  | rest => failNext .expectedItemEnd rest

-- Finds the first name of an object whose brace has been read, or its end; the name's quote is taken.
def firstMember (text : List Char) : Except Failure Next :=
  match skipBlanks text with
  | [] => failAt .unfinishedObject []
  | '\x7d' :: rest => .ok (.done rest)
  | '"' :: rest => .ok (.more rest)
  | rest => failNext .nameNotString rest

def nextMember (text : List Char) : Except Failure Next :=
  match skipBlanks text with
  | [] => failAt .unfinishedObject []
  | '\x7d' :: rest => .ok (.done rest)
  | ',' :: rest =>
      match skipBlanks rest with
      | [] => failAt .unfinishedValue []
      | '"' :: more => .ok (.more more)
      | '\x7d' :: more => failNext .trailingComma ('\x7d' :: more)
      | rest => failNext .nameNotString rest
  | rest => failNext .expectedMemberEnd rest

def colon (text : List Char) : Except Failure (List Char) :=
  match skipBlanks text with
  | [] => failAt .unfinishedObject []
  | ':' :: rest => .ok rest
  | rest => failNext .expectedColon rest

mutual
-- A value at the front of the text. `depth` is the number of levels it may have; the fuel bounds the number
-- of calls.
def readValue : Nat → Nat → List Char → Except Failure (Value × List Char)
  | 0, _, text => failAt .unfinishedValue text
  | fuel + 1, depth, text =>
      match skipBlanks text with
      | [] => failAt .unfinishedValue []
      | 'n' :: rest => do .ok (.null, ← word ['u', 'l', 'l'] rest)
      | 't' :: rest => do .ok (.bool true, ← word ['r', 'u', 'e'] rest)
      | 'f' :: rest => do .ok (.bool false, ← word ['a', 'l', 's', 'e'] rest)
      | '-' :: rest => do
          let (value, rest) ← number true rest
          .ok (.number value, rest)
      | '"' :: rest => do
          let (text, rest) ← string rest
          .ok (.string text, rest)
      | '[' :: rest =>
          match depth with
          | 0 => failNext .tooDeep ('[' :: rest)
          | depth + 1 => do
              let (items, rest) ← readItems fuel depth (← firstItem rest)
              .ok (.array items, rest)
      | '\x7b' :: rest =>
          match depth with
          | 0 => failNext .tooDeep ('\x7b' :: rest)
          | depth + 1 => do
              let (members, rest) ← readMembers fuel depth (← firstMember rest)
              .ok (.object (members.foldl (fun known member => insertMember member.1 member.2 known) []), rest)
      | c :: rest =>
          if isDigit c then do
            let (value, rest) ← number false (c :: rest)
            .ok (.number value, rest)
          else failNext .expectedValue (c :: rest)

def readItems : Nat → Nat → Next → Except Failure (List Value × List Char)
  | 0, _, .done text | 0, _, .more text => failAt .unfinishedList text
  | _ + 1, _, .done rest => .ok ([], rest)
  | fuel + 1, depth, .more text => do
      let (item, rest) ← readValue fuel depth text
      let (others, rest) ← readItems fuel depth (← nextItem rest)
      .ok (item :: others, rest)

def readMembers : Nat → Nat → Next → Except Failure (List (String × Value) × List Char)
  | 0, _, .done text | 0, _, .more text => failAt .unfinishedObject text
  | _ + 1, _, .done rest => .ok ([], rest)
  | fuel + 1, depth, .more text => do
      let (name, rest) ← string text
      let (value, rest) ← readValue fuel depth (← colon rest)
      let (others, rest) ← readMembers fuel depth (← nextMember rest)
      .ok ((name, value) :: others, rest)
end

-- Enough fuel to read any value of the text: a value takes a character, and so does what separates it from
-- the next.
def fuelFor (text : List Char) : Nat := 2 * text.length + 2

def atEnd (text : List Char) : Except Failure Unit :=
  match skipBlanks text with
  | [] => .ok ()
  | rest => failNext .trailingCharacters rest

def parse (text : String) : Except Failure Value := do
  let (value, rest) ← readValue (fuelFor text.toList) depthLimit text.toList
  atEnd rest
  .ok value

end ChainExplorer.Json
