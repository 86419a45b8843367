import ChainExplorer.Search.Controller

set_option autoImplicit false

namespace ChainExplorer

open Search (Request Kind Outcome)

inductive Notice where
  | submitted (request : Request)
  | rendered (request : Nat) (kind : Kind)
  | unknownKind (request : Nat) (name : String)
  | failed (request : Nat) (message : Option String)
  | answersClosed
  | defaultsWritten (path : String)
deriving Repr, DecidableEq

namespace Notice

-- The notice about the answer to a request; a stale answer gives none.
def ofOutcome (request : Nat) : Outcome → Option Notice
  | .rendered kind => some (.rendered request kind)
  | .unknownKind name => some (.unknownKind request name)
  | .failed message => some (.failed request message)
  | .stale => none

def text : Notice → String
  | .submitted request =>
      "INFO search submitted request=" ++ toString request.id ++ " query=" ++ request.query
  | .rendered request kind =>
      "INFO search rendered request=" ++ toString request ++ " object_type=" ++ kind.label
  | .unknownKind request name => "WARN Unknown ObjectType: " ++ name ++ " request=" ++ toString request
  | .failed request message =>
      "WARN search failed: " ++ message.getD "no error message" ++ " request=" ++ toString request
  | .answersClosed => "WARN search completion channel closed"
  | .defaultsWritten path => "INFO default configuration written path=" ++ path

end Notice
end ChainExplorer
