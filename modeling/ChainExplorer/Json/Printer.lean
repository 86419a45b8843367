import ChainExplorer.Json.Value
import ChainExplorer.Number.Format
import ChainExplorer.Number.Hexadecimal

set_option autoImplicit false

namespace ChainExplorer.Json

def printChar (c : Char) : List Char :=
  if c = '"' then ['\\', '"']
  else if c = '\\' then ['\\', '\\']
  else if c = '\x08' then ['\\', 'b']
  else if c = '\t' then ['\\', 't']
  else if c = '\n' then ['\\', 'n']
  else if c = '\x0C' then ['\\', 'f']
  else if c = '\r' then ['\\', 'r']
  else if c.toNat < 0x20 then ['\\', 'u', '0', '0', Number.hexDigit (c.toNat / 16), Number.hexDigit (c.toNat % 16)]
  else [c]

def printString (text : String) : List Char := '"' :: text.toList.flatMap printChar ++ ['"']

def printInteger (value : Int) : List Char :=
  (if value < 0 then ['-'] else []) ++ Nat.toDigits 10 value.natAbs

def printNumber : Number → List Char
  | .integer value => printInteger value
  | .double value => Number.jsonDouble.write value

mutual
def printValue : Value → List Char
  | .null => "null".toList
  | .bool true => "true".toList
  | .bool false => "false".toList
  | .number value => printNumber value
  | .string text => printString text
  | .array items => '[' :: printItems items ++ [']']
  | .object members => '\x7b' :: printMembers members ++ ['\x7d']

def printItems : List Value → List Char
  | [] => []
  | [item] => printValue item
  | item :: rest => printValue item ++ ',' :: printItems rest

def printMembers : List (String × Value) → List Char
  | [] => []
  | [(name, value)] => printString name ++ ':' :: printValue value
  | (name, value) :: rest => printString name ++ ':' :: printValue value ++ ',' :: printMembers rest
end

def Value.text (value : Value) : String := String.ofList (printValue value)

end ChainExplorer.Json
