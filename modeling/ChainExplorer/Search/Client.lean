import ChainExplorer.Search.Request
import ChainExplorer.Url.Reference

set_option autoImplicit false

namespace ChainExplorer.Search

structure Client where
  url : Url
  userAgent : String
deriving Repr, DecidableEq

namespace Client

def searchPath : List Char := "api/v1/search".toList

def defaultUserAgent : String := "blockscope/0.1.0"

-- The address of the search of an explorer. What the explorer's address holds behind its path is dropped.
def searchUrl (explorer : Url) : Url :=
  let base :=
    if explorer.path.getLast? = some '/' then explorer else explorer.setPath (explorer.path ++ ['/'])
  base.join searchPath

def isHeader (text : String) : Bool :=
  !text.isEmpty && text.toList.all fun c => c == '\t' || (0x20 ≤ c.toNat && c.toNat != 0x7F)

def explorerUrl (endpoint : String) : Except BackendError Url :=
  match Url.parse endpoint with
  | .error problem => .error (.invalidEndpoint (endpoint ++ ": " ++ problem.message))
  | .ok url =>
      if url.scheme = "http".toList ∨ url.scheme = "https".toList then .ok url
      else .error (.invalidEndpoint (endpoint ++ ": unsupported scheme '" ++ String.ofList url.scheme ++ "'"))

def connect (endpoint : String) (userAgent : Option String) : Except BackendError Client := do
  let url ← explorerUrl endpoint
  let userAgent := userAgent.getD defaultUserAgent
  if isHeader userAgent then .ok ⟨searchUrl url, userAgent⟩
  else .error (.transport "the user agent cannot stand in a header")

def target (client : Client) (query : String) : String :=
  String.ofList (client.url.addPair "query" query).target

def hasBody (status : Nat) : Bool := status != 204 && status != 304

def isSuccess (status : Nat) : Bool := 200 ≤ status && status < 300

def interpret (status : Nat) (body : Text.Bytes) : Except BackendError Result :=
  let text := if hasBody status then String.ofList (Text.readUtf8 body) else ""
  match Result.ofBody text with
  | .ok result => .ok result
  | .error problem => if isSuccess status then .error problem else .error (.status status)

end Client

-- The search that a URL asks for. A text that is no URL asks for none.
def launchSearch (url : String) : Option String :=
  match Url.parse url with
  | .error _ => none
  | .ok url => url.parameter? "search"

end ChainExplorer.Search
