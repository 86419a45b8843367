import ChainExplorer.Url.Parser

set_option autoImplicit false

namespace ChainExplorer.Url

-- Question marks and hash signs are part of a path that is set by itself.
def setPath (url : Url) (path : List Char) : Url := { url with path := readPath (isSpecial url.scheme) path }

def Path.directory (path : List Char) : List (List Char) := ((path.drop 1).splitOn '/').dropLast

-- What comes behind the last slash of the base is left behind, and so are its query and its fragment.
def join (base : Url) (path : List Char) : Url :=
  let segments := (Path.segments (isSpecial base.scheme) path).map (percentEncode .path)
  { base with
    path := Path.text (Path.follow (Path.directory base.path) segments)
    query := none
    fragment := none }

def addPair (url : Url) (name value : String) : Url :=
  let pair := Form.writePair name value
  { url with
    query := some (match url.query with
      | none | some [] => pair
      | some pairs => pairs ++ '&' :: pair) }

def target (url : Url) : List Char := url.path ++ marked '?' url.query

end ChainExplorer.Url
