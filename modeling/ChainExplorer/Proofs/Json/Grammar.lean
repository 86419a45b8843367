import ChainExplorer.Json.Scan
import Mathlib.Data.List.Forall2

set_option autoImplicit false

namespace ChainExplorer.Json

def Blanks (text : List Char) : Prop := ∀ c ∈ text, isBlank c

-- The digits of hexadecimal numerals come in two cases.
def HexDigit (value : Nat) (c : Char) : Prop :=
  value < 16 ∧ (c = Number.hexDigit value ∨ c = Number.upperHexDigit value)

inductive HexQuad : Nat → List Char → Prop where
  | digits (a b c d : Nat) (p q r s : Char) (first : HexDigit a p) (second : HexDigit b q) (third : HexDigit c r)
      (fourth : HexDigit d s) : HexQuad (((a * 16 + b) * 16 + c) * 16 + d) [p, q, r, s]

def shortEscapes : List (Char × Char) :=
  [('"', '"'), ('\\', '\\'), ('/', '/'), ('b', '\x08'), ('f', '\x0C'), ('n', '\n'), ('r', '\r'), ('t', '\t')]

def Unescaped (c : Char) : Prop := c ≠ '"' ∧ c ≠ '\\' ∧ 0x20 ≤ c.toNat

-- A character above the basic plane is escaped as two surrogates.
inductive SpellsChar : Char → List Char → Prop where
  | plain (c : Char) (unescaped : Unescaped c) : SpellsChar c [c]
  | short (letter c : Char) (known : (letter, c) ∈ shortEscapes) : SpellsChar c ['\\', letter]
  | code (c : Char) (quad : List Char) (spelled : HexQuad c.toNat quad) : SpellsChar c ('\\' :: 'u' :: quad)
  | pair (c : Char) (high low : List Char) (above : 0x10000 ≤ c.toNat)
      (first : HexQuad (0xD800 + (c.toNat - 0x10000) / 1024) high)
      (second : HexQuad (0xDC00 + (c.toNat - 0x10000) % 1024) low) :
      SpellsChar c ('\\' :: 'u' :: (high ++ '\\' :: 'u' :: low))

def SpellsString (text : String) (spelled : List Char) : Prop :=
  ∃ units, List.Forall₂ SpellsChar text.toList units ∧ spelled = '"' :: (units.flatten ++ ['"'])

-- What may stand in the place of a character, though it may be half of one.
inductive CharUnit : List Char → Prop where
  | plain (c : Char) (unescaped : Unescaped c) : CharUnit [c]
  | short (letter c : Char) (known : (letter, c) ∈ shortEscapes) : CharUnit ['\\', letter]
  | code (value : Nat) (quad : List Char) (spelled : HexQuad value quad) : CharUnit ('\\' :: 'u' :: quad)

def StringText (text : List Char) : Prop :=
  ∃ units : List (List Char), (∀ unit ∈ units, CharUnit unit) ∧ text = '"' :: (units.flatten ++ ['"'])

def Digits (text : List Char) : Prop := text ≠ [] ∧ ∀ c ∈ text, isDigit c

-- Zeros do not lead.
def Numeral (digits : List Char) : Prop := Digits digits ∧ (digits.head? = some '0' → digits = ['0'])

-- A zero has no sign: with one it is no integer.
def SpellsInteger (value : Int) (text : List Char) : Prop :=
  ∃ digits, Numeral digits ∧ Nat.ofDigitChars 10 digits 0 = value.natAbs ∧
    text = (if value < 0 then ['-'] else []) ++ digits

def FractionText (text : List Char) : Prop := text = [] ∨ ∃ digits, Digits digits ∧ text = '.' :: digits

def ExponentText (text : List Char) : Prop :=
  text = [] ∨ ∃ letter sign digits, letter ∈ ['e', 'E'] ∧ sign ∈ [[], ['+'], ['-']] ∧ Digits digits ∧
    text = letter :: (sign ++ digits)

def NumberText (text : List Char) : Prop :=
  ∃ sign digits fraction exponent, sign ∈ [[], ['-']] ∧ Numeral digits ∧ FractionText fraction ∧
    ExponentText exponent ∧ text = sign ++ digits ++ fraction ++ exponent

inductive Phrase (α β : Type) where
  | value (value : α)
  | element (value : α)
  | items (values : List α)
  | member (name : β) (value : α)
  | members (members : List (β × α))

-- What the words of a text stand for, and what is made of the parts of lists and objects.
structure Grammar (α β : Type) where
  scalar : α → List Char → Prop
  name : β → List Char → Prop
  list : List α → α → Prop
  object : List (β × α) → α → Prop

inductive Grammar.Spells {α β : Type} (grammar : Grammar α β) : Phrase α β → List Char → Prop where
  | scalar (value : α) (text : List Char) (stands : grammar.scalar value text) : grammar.Spells (.value value) text
  | noItems (value : α) (blanks : List Char) (stands : grammar.list [] value) (empty : Blanks blanks) :
      grammar.Spells (.value value) ('[' :: (blanks ++ [']']))
  | list (value : α) (values : List α) (text : List Char) (stands : grammar.list values value)
      (items : grammar.Spells (.items values) text) : grammar.Spells (.value value) ('[' :: (text ++ [']']))
  | noMembers (value : α) (blanks : List Char) (stands : grammar.object [] value) (empty : Blanks blanks) :
      grammar.Spells (.value value) ('\x7b' :: (blanks ++ ['\x7d']))
  | object (value : α) (listed : List (β × α)) (text : List Char) (stands : grammar.object listed value)
      (members : grammar.Spells (.members listed) text) :
      grammar.Spells (.value value) ('\x7b' :: (text ++ ['\x7d']))
  | element (value : α) (before text after : List Char) (leading : Blanks before)
      (spelled : grammar.Spells (.value value) text) (trailing : Blanks after) :
      grammar.Spells (.element value) (before ++ text ++ after)
  | lastItem (value : α) (text : List Char) (spelled : grammar.Spells (.element value) text) :
      grammar.Spells (.items [value]) text
  | item (value : α) (values : List α) (text more : List Char) (spelled : grammar.Spells (.element value) text)
      (items : grammar.Spells (.items values) more) : grammar.Spells (.items (value :: values)) (text ++ ',' :: more)
  | member (name : β) (value : α) (before quoted between text : List Char) (leading : Blanks before)
      (named : grammar.name name quoted) (trailing : Blanks between) (spelled : grammar.Spells (.element value) text) :
      grammar.Spells (.member name value) (before ++ quoted ++ between ++ ':' :: text)
  | lastMember (name : β) (value : α) (text : List Char) (spelled : grammar.Spells (.member name value) text) :
      grammar.Spells (.members [(name, value)]) text
  | members (name : β) (value : α) (listed : List (β × α)) (text more : List Char)
      (spelled : grammar.Spells (.member name value) text) (members : grammar.Spells (.members listed) more) :
      grammar.Spells (.members ((name, value) :: listed)) (text ++ ',' :: more)

inductive SpellsScalar : Value → List Char → Prop where
  | null : SpellsScalar .null ['n', 'u', 'l', 'l']
  | true : SpellsScalar (.bool true) ['t', 'r', 'u', 'e']
  | false : SpellsScalar (.bool false) ['f', 'a', 'l', 's', 'e']
  | integer (value : Int) (text : List Char) (spelled : SpellsInteger value text) :
      SpellsScalar (.number (.integer value)) text
  | string (value : String) (text : List Char) (spelled : SpellsString value text) : SpellsScalar (.string value) text

-- Texts with the values they stand for. The members of an object may be listed in any order.
def Grammar.exact : Grammar Value String where
  scalar := SpellsScalar
  name := SpellsString
  list values value := value = .array values
  object listed value := ∃ members, listed.Perm members ∧ value = .object members

inductive ScalarText : List Char → Prop where
  | null : ScalarText ['n', 'u', 'l', 'l']
  | true : ScalarText ['t', 'r', 'u', 'e']
  | false : ScalarText ['f', 'a', 'l', 's', 'e']
  | number (text : List Char) (spelled : NumberText text) : ScalarText text
  | string (text : List Char) (spelled : StringText text) : ScalarText text

def Grammar.loose : Grammar Unit Unit where
  scalar _ := ScalarText
  name _ := StringText
  list _ _ := True
  object _ _ := True

def WellFormed (text : List Char) : Prop := Grammar.loose.Spells (.element ()) text

-- A value with no other numbers than integers of 64 bits, with or without a sign, with one member for each name,
-- and with no more levels than given.
inductive Value.Plain : Nat → Value → Prop where
  | null (levels : Nat) : Plain levels .null
  | bool (levels : Nat) (value : Bool) : Plain levels (.bool value)
  | integer (levels : Nat) (value : Int) (above : -Number.signedLimit ≤ value) (below : value < Number.wordLimit) :
      Plain levels (.number (.integer value))
  | string (levels : Nat) (text : String) : Plain levels (.string text)
  | array (levels : Nat) (items : List Value) (each : ∀ item ∈ items, Plain levels item) :
      Plain (levels + 1) (.array items)
  | object (levels : Nat) (members : List (String × Value))
      (ordered : members.Pairwise fun member later => member.1 < later.1)
      (each : ∀ member ∈ members, Plain levels member.2) : Plain (levels + 1) (.object members)

end ChainExplorer.Json
