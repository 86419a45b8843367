import ChainExplorer.Url.Percent

set_option autoImplicit false

namespace ChainExplorer.Url.Path

def isDot (segment : List Char) : Bool :=
  segment == ['.'] || segment == "%2e".toList || segment == "%2E".toList

def isTwoDots (segment : List Char) : Bool :=
  [1, 3].any fun length => isDot (segment.take length) && isDot (segment.drop length)

-- No dots remove a drive.
def isDrive : List Char → Bool
  | [letter, mark] => letter.isAlpha && (mark == ':' || mark == '|')
  | _ => false

def parent (segments : List (List Char)) : List (List Char) :=
  match segments.getLast? with
  | none => []
  | some last => if isDrive last then segments else segments.dropLast

-- Dots at the end lead to a place with an empty segment.
def follow (place : List (List Char)) : List (List Char) → List (List Char)
  | [] => place
  | [last] =>
      if isTwoDots last then parent place ++ [[]]
      else if isDot last then place ++ [[]]
      else place ++ [last]
  | segment :: rest =>
      if isTwoDots segment then follow (parent place) rest
      else if isDot segment then follow place rest
      else follow (place ++ [segment]) rest

def text (segments : List (List Char)) : List Char := segments.flatMap ('/' :: ·)

def segments (backslash : Bool) (text : List Char) : List (List Char) :=
  (text.map fun c => if backslash && c == '\\' then '/' else c).splitOn '/'

def parse (backslash : Bool) (source : List Char) : List Char :=
  text (follow [] ((segments backslash source).map (percentEncode .path)))

end ChainExplorer.Url.Path
