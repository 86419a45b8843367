import ChainExplorer.Url.Basic
import ChainExplorer.Url.Path

set_option autoImplicit false

namespace ChainExplorer.Url

def cleaned (text : List Char) : List Char :=
  let isBlank (c : Char) : Bool := c.toNat ≤ 0x20
  let trimmed := ((text.dropWhile isBlank).reverse.dropWhile isBlank).reverse
  trimmed.filter fun c => !(c == '\t' || c == '\n' || c == '\r')

def isLetter (c : Char) : Bool := (65 ≤ c.toNat && c.toNat ≤ 90) || (97 ≤ c.toNat && c.toNat ≤ 122)

def isSchemeChar (c : Char) : Bool :=
  isLetter c || (48 ≤ c.toNat && c.toNat ≤ 57) || c == '+' || c == '-' || c == '.'

def lowerAscii (c : Char) : Char := if 65 ≤ c.toNat && c.toNat ≤ 90 then Char.ofNat (c.toNat + 32) else c

def splitScheme (text : List Char) : Option (List Char × List Char) :=
  match text with
  | [] => none
  | first :: _ =>
      if isLetter first then
        match text.dropWhile isSchemeChar with
        | ':' :: rest => some ((text.takeWhile isSchemeChar).map lowerAscii, rest)
        | _ => none
      else none

def isSlash (special : Bool) (c : Char) : Bool := c == '/' || (special && c == '\\')

def endsAuthority (special : Bool) (c : Char) : Bool := isSlash special c || c == '?' || c == '#'

def splitUser (authority : List Char) : Option (List Char × List Char) :=
  if authority.contains '@' then
    let host := (authority.reverse.takeWhile (· != '@')).reverse
    some (authority.take (authority.length - host.length - 1), host)
  else none

def readUser (text : List Char) : List Char × Option (List Char) :=
  let username := text.takeWhile (· != ':')
  let password := (text.dropWhile (· != ':')).drop 1
  (percentEncode .userinfo username,
   if password.isEmpty then none else some (percentEncode .userinfo password))

-- The host and what follows it. A colon in brackets belongs to the host.
def splitHost (bracketed : Bool) : List Char → List Char × List Char
  | [] => ([], [])
  | c :: rest =>
      if c = ':' ∧ !bracketed then ([], c :: rest)
      else
        let (host, after) := splitHost (if c = '[' then true else if c = ']' then false else bracketed) rest
        (c :: host, after)

def digitsValue (digits : List Char) : Nat := digits.foldl (fun sum c => sum * 10 + (c.toNat - 48)) 0

-- A port with the colon before it. The port that the scheme implies is left out. A backslash ends it.
def readPort (scheme : List Char) (text : List Char) : Except Problem (Option Nat) :=
  let digits := (text.drop 1).takeWhile fun c => 48 ≤ c.toNat && c.toNat ≤ 57
  match (text.drop 1).dropWhile fun c => 48 ≤ c.toNat && c.toNat ≤ 57 with
  | [] | '\\' :: _ =>
      if 65535 < digitsValue digits then .error .badPort
      else if digits.isEmpty ∨ defaultPort? scheme = some (digitsValue digits) then .ok none
      else .ok (some (digitsValue digits))
  | _ => .error .badPort

def readHostPort (scheme text : List Char) : Except Problem (Host × Option Nat) := do
  let (name, after) := splitHost false text
  if isSpecial scheme ∧ name.isEmpty then .error .emptyHost
  let host ← if isSpecial scheme then Host.parse name else Host.parseOpaque name
  if host = .name [] ∧ !after.isEmpty then .error .emptyHost
  .ok (host, ← readPort scheme after)

def splitPath (text : List Char) : List Char × Option (List Char) × Option (List Char) :=
  let beforeFragment := text.takeWhile (· != '#')
  let path := beforeFragment.takeWhile (· != '?')
  let fragment := match text.dropWhile (· != '#') with
    | [] => none
    | _ :: fragment => some fragment
  let query := match beforeFragment.dropWhile (· != '?') with
    | [] => none
    | _ :: query => some query
  (path, query, fragment)

def readPath (special : Bool) (text : List Char) : List Char :=
  match text with
  | [] => if special then ['/'] else []
  | c :: rest => Path.parse special (if isSlash special c then rest else c :: rest)

def withPath (scheme : List Char) (user : List Char × Option (List Char)) (host : Option Host)
    (port : Option Nat) (path : List Char → List Char) (text : List Char) : Url :=
  let (path', query, fragment) := splitPath text
  { scheme
    username := user.1
    password := user.2
    host
    port
    path := path path'
    query := query.map (percentEncode (if isSpecial scheme then .specialQuery else .query))
    fragment := fragment.map (percentEncode .fragment) }

def readAuthority (scheme text : List Char) : Except Problem Url := do
  let special := isSpecial scheme
  let authority := text.takeWhile (!endsAuthority special ·)
  let rest := text.dropWhile (!endsAuthority special ·)
  let (user, hostPort) := (splitUser authority).getD ([], authority)
  if authority.head? = some '@' ∧ hostPort.isEmpty ∧ user.isEmpty ∧ !rest.isEmpty then .error .emptyHost
  let (username, password) := readUser user
  let (host, port) ← readHostPort scheme hostPort
  if host = .name [] ∧ !(username.isEmpty ∧ password.isNone) then .error .emptyHost
  .ok (withPath scheme (username, password) (some host) port (readPath special) rest)

-- Reads on behind the scheme of a file. A drive or the local host is no host.
def readFileUrl (scheme text : List Char) : Except Problem Url := do
  match text with
  | a :: b :: rest =>
      if isSlash true a ∧ isSlash true b then
        let name := rest.takeWhile (!endsAuthority true ·)
        if Path.isDrive name ∨ name.isEmpty then
          .ok (withPath scheme ([], none) (some (.name [])) none (readPath true) rest)
        else
          let host ← Host.parse name
          let host := if host = .name "localhost".toList then .name [] else host
          .ok (withPath scheme ([], none) (some host) none (readPath true) (rest.dropWhile (!endsAuthority true ·)))
      else .ok (withPath scheme ([], none) (some (.name [])) none (readPath true) text)
  | _ => .ok (withPath scheme ([], none) (some (.name [])) none (readPath true) text)

def readPlain (scheme text : List Char) : Except Problem Url :=
  match text with
  | '/' :: '/' :: rest => readAuthority scheme rest
  | '/' :: _ => .ok (withPath scheme ([], none) none none (readPath false) text)
  | _ => .ok (withPath scheme ([], none) none none (percentEncode .controls) text)

def parse (text : String) : Except Problem Url :=
  match splitScheme (cleaned text.toList) with
  | none => .error .noScheme
  | some (scheme, rest) =>
      if isFile scheme then readFileUrl scheme rest
      else if isSpecial scheme then readAuthority scheme (rest.dropWhile (isSlash true))
      else readPlain scheme rest

end ChainExplorer.Url
