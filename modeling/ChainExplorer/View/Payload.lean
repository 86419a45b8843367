import ChainExplorer.Calendar
import ChainExplorer.Json.Printer
import ChainExplorer.Number.ByteSize
import ChainExplorer.Results.Field

set_option autoImplicit false

namespace ChainExplorer

inductive Aspect where
  | block
  | address
  | transaction
deriving Repr, DecidableEq

namespace Payload

open Json (Value)

def scalar? : Value → Option String
  | .string text => some text
  | .number number => some (String.ofList (Json.printNumber number))
  | .bool true => some "true"
  | .bool false => some "false"
  | _ => none

def scalarField (label : String) (kind : FieldKind) (value : Option Value) : List Field :=
  ((value.bind scalar?).map fun text => { label, kind, value := some text }).toList

-- Seconds since 1970, given as they are or as the member `value` of an object.
def time? (value : Value) : Option String :=
  match value.signed? with
  | some seconds => Calendar.timestamp? seconds
  | none => ((value.member? "value").bind Value.signed?).bind Calendar.timestamp?

def timeField (label : String) (value : Option Value) : List Field :=
  ((value.bind time?).map fun text => { label, kind := .plain, value := some text }).toList

def size? (value : Value) : Option String := value.unsigned?.map Number.byteSize

def sizeField (label : String) (value : Option Value) : List Field :=
  ((value.bind size?).map fun text => { label, kind := .plain, value := some text }).toList

-- The elements of a list; any other value has none.
def elements (value : Option Value) : List Value := (value.bind Value.items?).getD []

-- A transaction of a list: its hash, where it has one, or the element itself.
def transactionField (transaction : Value) : List Field :=
  scalarField "" .transactionHash (some ((transaction.member? "hash").getD transaction))

def transactionFields (value : Option Value) : List Field :=
  match value.bind Value.items? with
  | none => []
  | some transactions =>
      { label := "Transactions", kind := .plain, value := some (toString transactions.length) }
        :: transactions.flatMap transactionField

def output? (output : Value) : Option String :=
  match (output.member? "address").bind scalar?, (output.member? "amount").bind scalar? with
  | some address, some amount => some (address ++ " (" ++ amount ++ ")")
  | some text, none | none, some text => some text
  | none, none => none

def outputField (output : Value) : List Field :=
  ((output? output).map fun text => { label := "Output", kind := .plain, value := some text }).toList

def address? (object : Value) : Option Value :=
  match object.member? "base58CheckEncoded", object.member? "base32CheckEncoded" with
  | some address, _ | none, some address => some address
  | none, none => object.member? "address"

def blockFields (object : Value) : List Field :=
  scalarField "Hash" .hash (object.member? "hash")
    ++ scalarField "Height" .plain (object.member? "height")
    ++ scalarField "Previous Block" .previousBlockHash (object.member? "previousBlockHash")
    ++ scalarField "Merkle Root" .hash (object.member? "merkleRoot")
    ++ timeField "Timestamp" (object.member? "timestamp")
    ++ scalarField "Difficulty" .plain (object.member? "difficulty")
    ++ scalarField "Nonce" .plain (object.member? "nonce")
    ++ sizeField "Size" (object.member? "byteCount")
    ++ transactionFields (object.member? "transactions")

def addressFields (object : Value) : List Field :=
  scalarField "Address" .plain (address? object)
    ++ scalarField "Balance" .plain (object.member? "balance")
    ++ transactionFields (object.member? "transactions")

def transactionObjectFields (object : Value) : List Field :=
  scalarField "Hash" .transactionHash (object.member? "hash")
    ++ (elements (object.member? "blocks")).flatMap (fun block => scalarField "Block" .blockHashes (some block))
    ++ sizeField "Size" (object.member? "byteCount")
    ++ scalarField "Fee" .plain (object.member? "fee")
    ++ (elements (object.member? "inputs")).flatMap (fun input =>
        scalarField "Input" .transactionHash (input.member? "previousOutputTransactionHash"))
    ++ (elements (object.member? "outputs")).flatMap outputField

end Payload

namespace Aspect

def title : Aspect → String
  | .block => "Block"
  | .address => "Address"
  | .transaction => "Transaction"

def fields : Aspect → Json.Value → List Field
  | .block => Payload.blockFields
  | .address => Payload.addressFields
  | .transaction => Payload.transactionObjectFields

-- The hash or address under which an object goes into the history; an empty text is none.
def key? (aspect : Aspect) (object : Json.Value) : Option String :=
  let value := match aspect with
    | .block | .transaction => object.member? "hash"
    | .address => Payload.address? object
  (value.bind Payload.scalar?).filter (!·.isEmpty)

end Aspect
end ChainExplorer
