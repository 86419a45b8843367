import ChainExplorer.Json.Reader

set_option autoImplicit false

namespace ChainExplorer.Json

def skipString : Nat → List Char → Except Failure (List Char)
  | 0, text => failAt .unfinishedString text
  | _ + 1, [] => failAt .unfinishedString []
  | fuel + 1, c :: rest =>
      if c = '"' then .ok rest
      else if c = '\\' then
        match rest with
        | [] => failAt .unfinishedString []
        | 'u' :: more => do
            let (_, more) ← hexQuad more
            skipString fuel more
        | d :: more =>
            if ['"', '\\', '/', 'b', 'f', 'n', 'r', 't'].contains d then skipString fuel more
            else failNext .invalidEscape rest
      else if c.toNat < 0x20 then failAt .controlCharacter (c :: rest)
      else skipString fuel rest

def skipExponent (text : List Char) : Except Failure (List Char) :=
  let text := match text with
    | '+' :: rest | '-' :: rest => rest
    | _ => text
  match text with
  | [] => failAt .invalidNumber []
  | c :: rest => if isDigit c then .ok (rest.dropWhile isDigit) else failNext .invalidNumber text

def skipNumberTail (text : List Char) : Except Failure (List Char) :=
  match text with
  | '.' :: rest =>
      let (digits, rest) := takeDigits rest
      if digits.isEmpty then failNext .invalidNumber rest
      else
        match rest with
        | 'e' :: more | 'E' :: more => skipExponent more
        | _ => .ok rest
  | 'e' :: rest | 'E' :: rest => skipExponent rest
  | _ => .ok text

def skipNumber (text : List Char) : Except Failure (List Char) :=
  match text with
  | [] => failAt .invalidNumber []
  | c :: rest =>
      if c = '0' then
        match rest with
        | d :: _ => if isDigit d then failNext .invalidNumber rest else skipNumberTail rest
        | [] => .ok []
      else if isDigit c then skipNumberTail (rest.dropWhile isDigit)
      else failNext .invalidNumber text

-- The name of a member and its colon, from the name's quote.
def skipName (text : List Char) : Except Failure (List Char) :=
  match skipBlanks text with
  | [] => failAt .unfinishedObject []
  | '"' :: rest => do colon (← skipString (rest.length + 1) rest)
  | rest => failNext .nameNotString rest

mutual
def skipValue : Nat → List Char → Except Failure (List Char)
  | 0, text => failAt .unfinishedValue text
  | fuel + 1, text =>
      match skipBlanks text with
      | [] => failAt .unfinishedValue []
      | 'n' :: rest => word ['u', 'l', 'l'] rest
      | 't' :: rest => word ['r', 'u', 'e'] rest
      | 'f' :: rest => word ['a', 'l', 's', 'e'] rest
      | '-' :: rest => skipNumber rest
      | '"' :: rest => skipString (rest.length + 1) rest
      | '[' :: rest =>
          match skipBlanks rest with
          | [] => failAt .unfinishedList []
          | ']' :: rest => .ok rest
          | rest => do skipItems fuel (← skipValue fuel rest)
      | '\x7b' :: rest =>
          match skipBlanks rest with
          | [] => failAt .unfinishedObject []
          | '\x7d' :: rest => .ok rest
          | rest => do skipMembers fuel (← skipValue fuel (← skipName rest))
      | c :: rest =>
          if isDigit c then skipNumber (c :: rest) else failNext .expectedValue (c :: rest)

def skipItems : Nat → List Char → Except Failure (List Char)
  | 0, text => failAt .unfinishedList text
  | fuel + 1, text =>
      match skipBlanks text with
      | [] => failAt .unfinishedList []
      | ',' :: rest => do skipItems fuel (← skipValue fuel rest)
      | ']' :: rest => .ok rest
      | rest => failNext .expectedItemEnd rest

def skipMembers : Nat → List Char → Except Failure (List Char)
  | 0, text => failAt .unfinishedObject text
  | fuel + 1, text =>
      match skipBlanks text with
      | [] => failAt .unfinishedObject []
      | ',' :: rest => do skipMembers fuel (← skipValue fuel (← skipName rest))
      | '\x7d' :: rest => .ok rest
      | rest => failNext .expectedMemberEnd rest
end

end ChainExplorer.Json
