set_option autoImplicit false

namespace ChainExplorer.Search

inductive Kind where
  | block
  | blockHeader
  | address
  | transaction
  | unknown (name : String)
deriving Repr, DecidableEq

namespace Kind

def ofName (name : String) : Kind :=
  if name = "BLOCK" then .block
  else if name = "BLOCK_HEADER" then .blockHeader
  else if name = "ADDRESS" then .address
  else if name = "TRANSACTION" then .transaction
  else .unknown name

def name : Kind → String
  | .block => "BLOCK"
  | .blockHeader => "BLOCK_HEADER"
  | .address => "ADDRESS"
  | .transaction => "TRANSACTION"
  | .unknown name => name

def unnamed : Kind := .unknown ""

def label : Kind → String
  | .block => "Block"
  | .blockHeader => "BlockHeader"
  | .address => "Address"
  | .transaction => "Transaction"
  | .unknown _ => "Unknown"

end Kind
end ChainExplorer.Search
