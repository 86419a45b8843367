import ChainExplorer.Text.Offset

set_option autoImplicit false

namespace ChainExplorer.Json

inductive Cause where
  | unfinishedList
  | unfinishedObject
  | unfinishedString
  | unfinishedValue
  | expectedColon
  | expectedItemEnd
  | expectedMemberEnd
  | expectedWord
  | expectedValue
  | invalidEscape
  | invalidNumber
  | numberOutOfRange
  | controlCharacter
  | nameNotString
  | loneSurrogate
  | unfinishedSurrogate
  | trailingComma
  | trailingCharacters
  | tooDeep
  | wrongKind (found wanted : String)
  | missingField (name : String)
  | duplicateField (name : String)
  | wrongLength (length : Nat) (wanted : String)
deriving Repr, DecidableEq

def Cause.message : Cause → String
  | .unfinishedList => "EOF while parsing a list"
  | .unfinishedObject => "EOF while parsing an object"
  | .unfinishedString => "EOF while parsing a string"
  | .unfinishedValue => "EOF while parsing a value"
  | .expectedColon => "expected `:`"
  | .expectedItemEnd => "expected `,` or `]`"
  | .expectedMemberEnd => "expected `,` or `\x7d`"
  | .expectedWord => "expected ident"
  | .expectedValue => "expected value"
  | .invalidEscape => "invalid escape"
  | .invalidNumber => "invalid number"
  | .numberOutOfRange => "number out of range"
  | .controlCharacter => "control character (\\u0000-\\u001F) found while parsing a string"
  | .nameNotString => "key must be a string"
  | .loneSurrogate => "lone leading surrogate in hex escape"
  | .unfinishedSurrogate => "unexpected end of hex escape"
  | .trailingComma => "trailing comma"
  | .trailingCharacters => "trailing characters"
  | .tooDeep => "recursion limit exceeded"
  | .wrongKind found wanted => "invalid type: " ++ found ++ ", expected " ++ wanted
  | .missingField name => "missing field `" ++ name ++ "`"
  | .duplicateField name => "duplicate field `" ++ name ++ "`"
  | .wrongLength length wanted => "invalid length " ++ toString length ++ ", expected " ++ wanted

-- A cause, what was left of the text, and how many bytes of that the reader had looked at.
structure Failure where
  cause : Cause
  rest : List Char
  ahead : Nat
deriving Repr, DecidableEq

def failAt {α : Type} (cause : Cause) (rest : List Char) : Except Failure α := .error ⟨cause, rest, 0⟩

def failNext {α : Type} (cause : Cause) (rest : List Char) : Except Failure α := .error ⟨cause, rest, 1⟩

def place (line column : Nat) : List UInt8 → Nat × Nat
  | [] => (line, column)
  | byte :: rest => if byte = 10 then place (line + 1) 0 rest else place line (column + 1) rest

def Failure.place (failure : Failure) (text : String) : Nat × Nat :=
  let bytes := text.toUTF8.toList
  Json.place 1 0 (bytes.take (bytes.length - Text.byteLength failure.rest + failure.ahead))

def Failure.message (failure : Failure) (text : String) : String :=
  let place := failure.place text
  failure.cause.message ++ " at line " ++ toString place.1 ++ " column " ++ toString place.2

end ChainExplorer.Json
