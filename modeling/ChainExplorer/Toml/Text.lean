import ChainExplorer.Number.Hexadecimal

set_option autoImplicit false

namespace ChainExplorer.Toml

def isBlank (c : Char) : Bool := c == ' ' || c == '\t'

def skipBlanks (text : List Char) : List Char := text.dropWhile isBlank

def isPrintable (c : Char) : Bool := c == '\t' || (0x20 ≤ c.toNat && c.toNat != 0x7F)

def lineEnd? : List Char → Option (List Char)
  | '\n' :: rest => some rest
  | '\r' :: '\n' :: rest => some rest
  | _ => none

def skipComment (text : List Char) : List Char :=
  match text with
  | '#' :: rest => rest.dropWhile isPrintable
  | _ => text

def endLine? (text : List Char) : Option (List Char) :=
  match skipComment (skipBlanks text) with
  | [] => some []
  | rest => lineEnd? rest

def coded? (digits : List Char) : Option Char :=
  match Number.hexNumeral? digits with
  | some code => if Nat.isValidChar code then some (Char.ofNat code) else none
  | none => none

def escaped? (c : Char) : Option Char :=
  if c = 'b' then some '\x08'
  else if c = 't' then some '\t'
  else if c = 'n' then some '\n'
  else if c = 'f' then some '\x0C'
  else if c = 'r' then some '\r'
  else if c = '"' then some '"'
  else if c = '\\' then some '\\'
  else none

def before? (c : Option Char) (read : Option (List Char × List Char)) : Option (List Char × List Char) :=
  match c, read with
  | some c, some (text, rest) => some (c :: text, rest)
  | _, _ => none

def basic? : List Char → Option (List Char × List Char)
  | [] => none
  | '"' :: rest => some ([], rest)
  | '\\' :: 'u' :: a :: b :: c :: d :: rest => before? (coded? [a, b, c, d]) (basic? rest)
  | '\\' :: 'U' :: a :: b :: c :: d :: e :: f :: g :: h :: rest =>
      before? (coded? [a, b, c, d, e, f, g, h]) (basic? rest)
  | '\\' :: c :: rest => before? (escaped? c) (basic? rest)
  | c :: rest => if isPrintable c && c != '\\' then before? (some c) (basic? rest) else none

def literal? : List Char → Option (List Char × List Char)
  | [] => none
  | '\'' :: rest => some ([], rest)
  | c :: rest => if isPrintable c then before? (some c) (literal? rest) else none

inductive Folding where
  | no
  -- A backslash stood before, and the line must end.
  | atBackslash
  -- The line has ended after a backslash, and blanks and further line ends are passed over.
  | atBlanks
deriving Repr, DecidableEq

-- A basic string of several lines whose opening quotes have been read. Up to two quotes may stand before
-- the closing ones.
def basicLines? : Folding → List Char → Option (List Char × List Char)
  | _, [] => none
  | .atBackslash, '\r' :: '\n' :: rest => basicLines? .atBlanks rest
  | .atBackslash, c :: rest =>
      if c = '\n' then basicLines? .atBlanks rest
      else if isBlank c then basicLines? .atBackslash rest
      else none
  | .atBlanks, '\r' :: '\n' :: rest => basicLines? .atBlanks rest
  | .atBlanks, ' ' :: rest | .atBlanks, '\t' :: rest | .atBlanks, '\n' :: rest => basicLines? .atBlanks rest
  | _, '"' :: '"' :: '"' :: '"' :: '"' :: rest => some (['"', '"'], rest)
  | _, '"' :: '"' :: '"' :: '"' :: rest => some (['"'], rest)
  | _, '"' :: '"' :: '"' :: rest => some ([], rest)
  | _, '\r' :: '\n' :: rest => before? (some '\r') (before? (some '\n') (basicLines? .no rest))
  | _, '\\' :: 'u' :: a :: b :: c :: d :: rest => before? (coded? [a, b, c, d]) (basicLines? .no rest)
  | _, '\\' :: 'U' :: a :: b :: c :: d :: e :: f :: g :: h :: rest =>
      before? (coded? [a, b, c, d, e, f, g, h]) (basicLines? .no rest)
  | _, '\\' :: '\n' :: rest => basicLines? .atBlanks rest
  | _, '\\' :: '\r' :: '\n' :: rest => basicLines? .atBlanks rest
  | _, '\\' :: ' ' :: rest | _, '\\' :: '\t' :: rest => basicLines? .atBackslash rest
  | _, '\\' :: c :: rest => before? (escaped? c) (basicLines? .no rest)
  | _, c :: rest =>
      if (isPrintable c && c != '\\') || c == '\n' then before? (some c) (basicLines? .no rest) else none

def literalLines? : List Char → Option (List Char × List Char)
  | [] => none
  | '\'' :: '\'' :: '\'' :: '\'' :: '\'' :: rest => some (['\'', '\''], rest)
  | '\'' :: '\'' :: '\'' :: '\'' :: rest => some (['\''], rest)
  | '\'' :: '\'' :: '\'' :: rest => some ([], rest)
  | '\r' :: '\n' :: rest => before? (some '\r') (before? (some '\n') (literalLines? rest))
  | c :: rest => if isPrintable c || c == '\n' then before? (some c) (literalLines? rest) else none

-- A line end right after the opening quotes does not count.
def skipFirstLineEnd (text : List Char) : List Char := (lineEnd? text).getD text

def string? : List Char → Option (List Char × List Char)
  | '"' :: '"' :: '"' :: rest => basicLines? .no (skipFirstLineEnd rest)
  | '"' :: rest => basic? rest
  | '\'' :: '\'' :: '\'' :: rest => literalLines? (skipFirstLineEnd rest)
  | '\'' :: rest => literal? rest
  | _ => none

def isBareKeyChar (c : Char) : Bool := c.isAlphanum || c == '_' || c == '-'

def keyPart? (text : List Char) : Option (String × List Char) :=
  match text with
  | '"' :: rest => (basic? rest).map fun (name, rest) => (String.ofList name, rest)
  | '\'' :: rest => (literal? rest).map fun (name, rest) => (String.ofList name, rest)
  | _ =>
      if (text.takeWhile isBareKeyChar).isEmpty then none
      else some (String.ofList (text.takeWhile isBareKeyChar), text.dropWhile isBareKeyChar)

def key? : Nat → List Char → Option (List String × List Char)
  | 0, _ => none
  | fuel + 1, text =>
      match keyPart? (skipBlanks text) with
      | none => none
      | some (name, rest) =>
          match skipBlanks rest with
          | '.' :: rest => (key? fuel rest).map fun (names, rest) => (name :: names, rest)
          | rest => some ([name], rest)

end ChainExplorer.Toml
