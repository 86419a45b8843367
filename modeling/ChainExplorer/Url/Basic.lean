import ChainExplorer.Url.Form
import ChainExplorer.Url.Host

set_option autoImplicit false

namespace ChainExplorer

structure Url where
  scheme : List Char
  username : List Char
  password : Option (List Char)
  host : Option Url.Host
  port : Option Nat
  path : List Char
  query : Option (List Char)
  fragment : Option (List Char)
deriving Repr, DecidableEq

namespace Url

-- The port that a scheme implies. Schemes with one are special, and so is `file`.
def defaultPort? (scheme : List Char) : Option Nat :=
  match String.ofList scheme with
  | "http" | "ws" => some 80
  | "https" | "wss" => some 443
  | "ftp" => some 21
  | _ => none

def isFile (scheme : List Char) : Bool := scheme == "file".toList

def isSpecial (scheme : List Char) : Bool := (defaultPort? scheme).isSome || isFile scheme

def credentials (url : Url) : List Char :=
  match url.username, url.password with
  | [], none => []
  | username, none => username ++ ['@']
  | username, some password => username ++ ':' :: password ++ ['@']

def authority (url : Url) : List Char :=
  match url.host with
  | none => []
  | some host =>
      let port := match url.port with
        | none => []
        | some port => ':' :: Nat.toDigits 10 port
      ['/', '/'] ++ url.credentials ++ host.text ++ port

def marked (mark : Char) : Option (List Char) → List Char
  | none => []
  | some part => mark :: part

def text (url : Url) : String :=
  String.ofList (url.scheme ++ ':' :: url.authority ++ url.path ++ marked '?' url.query ++ marked '#' url.fragment)

def parameter? (url : Url) (name : String) : Option String := url.query.bind (Form.lookup name)

end Url
end ChainExplorer
