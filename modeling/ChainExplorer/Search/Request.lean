import ChainExplorer.Search.Result

set_option autoImplicit false

namespace ChainExplorer.Search

structure Request where
  id : Nat
  query : String
deriving Repr, DecidableEq

def Request.encode (request : Request) : String :=
  String.ofList ('\x7b' :: Json.printString "query" ++ ':' :: Json.printString request.query ++ ['\x7d'])

structure Completion where
  id : Nat
  result : Result
deriving Repr, BEq

inductive BackendError where
  | transport (detail : String)
  | undecodable (failure : Json.Failure) (body : String)
  | status (code : Nat)
  | invalidEndpoint (detail : String)
deriving Repr, DecidableEq

def BackendError.message : BackendError → String
  | .transport detail => "Transport error: " ++ detail
  | .undecodable failure body => "Failed to decode search result: " ++ failure.message body
  | .status code => "Backend returned HTTP " ++ toString code
  | .invalidEndpoint detail => "Invalid endpoint: " ++ detail

def BackendError.diagnostic : BackendError → String
  | .transport detail => "Transport(" ++ detail ++ ")"
  | .undecodable failure body => "Decode(" ++ failure.message body ++ ")"
  | .status code => "Status(" ++ toString code ++ ")"
  | .invalidEndpoint detail => "InvalidEndpoint(" ++ Text.quoted detail ++ ")"

def Result.ofBody (body : String) : Except BackendError Result :=
  match Result.decode body with
  | .ok result => .ok result
  | .error failure => .error (.undecodable failure body)

abbrev Backend := String → Except BackendError Result

def Request.complete (backend : Backend) (request : Request) : Completion :=
  match backend request.query with
  | .ok result => ⟨request.id, result⟩
  | .error problem => ⟨request.id, .failure problem.message⟩

def workerDescription : String := "WorkerDispatcher \x7b .. \x7d"

end ChainExplorer.Search
