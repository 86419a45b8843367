import ChainExplorer.Number.Word

set_option autoImplicit false

namespace ChainExplorer.Json

-- A number is an integer where it is written as one and fits 64 bits, with or without a sign; any other
-- number is a double.
inductive Number where
  | integer (value : Int)
  | double (value : Float)
deriving Repr, DecidableEq

inductive Value where
  | null
  | bool (value : Bool)
  | number (value : Number)
  | string (text : String)
  | array (items : List Value)
  | object (members : List (String × Value))
deriving Repr, Inhabited

-- Adds a member, in place of an earlier one of the same name.
def insertMember (name : String) (value : Value) : List (String × Value) → List (String × Value)
  | [] => [(name, value)]
  | (other, known) :: rest =>
      if name = other then (name, value) :: rest
      else if name < other then (name, value) :: (other, known) :: rest
      else (other, known) :: insertMember name value rest

namespace Value

def member? (name : String) : Value → Option Value
  | .object members => members.lookup name
  | _ => none

def items? : Value → Option (List Value)
  | .array items => some items
  | _ => none

def signed? : Value → Option Int
  | .number (.integer value) => if value < Number.signedLimit then some value else none
  | _ => none

def unsigned? : Value → Option Nat
  | .number (.integer value) => if 0 ≤ value then some value.toNat else none
  | _ => none

mutual
def beq : Value → Value → Bool
  | .null, .null => true
  | .bool a, .bool b => a == b
  | .number a, .number b => a == b
  | .string a, .string b => a == b
  | .array a, .array b => beqItems a b
  | .object a, .object b => beqMembers a b
  | _, _ => false

def beqItems : List Value → List Value → Bool
  | [], [] => true
  | a :: as, b :: bs => beq a b && beqItems as bs
  | _, _ => false

def beqMembers : List (String × Value) → List (String × Value) → Bool
  | [], [] => true
  | (m, a) :: as, (n, b) :: bs => m == n && beq a b && beqMembers as bs
  | _, _ => false
end

instance : BEq Value := ⟨beq⟩

end Value
end ChainExplorer.Json
