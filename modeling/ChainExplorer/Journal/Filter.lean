set_option autoImplicit false

namespace ChainExplorer.Journal

inductive Level where
  | off
  | error
  | warn
  | info
  | debug
  | trace
deriving Repr, DecidableEq

namespace Level

def rank : Level → Nat
  | .off => 0
  | .error => 1
  | .warn => 2
  | .info => 3
  | .debug => 4
  | .trace => 5

def ofNumber? (chars : List Char) : Option Level :=
  let digits := if chars.head? = some '+' then chars.tail else chars
  if digits.isEmpty then none
  else
    match digits.dropWhile (· == '0') with
    | [] => some .off
    | ['1'] => some .error
    | ['2'] => some .warn
    | ['3'] => some .info
    | ['4'] => some .debug
    | ['5'] => some .trace
    | _ => none

def ofName? (name : List Char) : Option Level :=
  match String.ofList (name.map Char.toLower) with
  | "off" => some .off
  | "error" => some .error
  | "warn" => some .warn
  | "info" => some .info
  | "debug" => some .debug
  | "trace" => some .trace
  | _ => ofNumber? name

end Level

inductive Demand where
  | nothing
  | field (name : String)
  | span
deriving Repr, DecidableEq

structure Rule where
  target : String
  demand : Demand
  level : Level
deriving Repr, DecidableEq

-- No note is made inside a span.
structure Origin where
  target : String
  fields : List String
  level : Level
deriving Repr, DecidableEq

namespace Rule

def isTargetStart (c : Char) : Bool := c.isAlphanum || c == '-' || c == ':' || c == '_' || 0x80 ≤ c.toNat

-- What stands between brackets: the name of a span, and in braces a field, with or without a value.
def demand? (chars : List Char) : Option Demand :=
  match chars.span (· != '\x7b') with
  | (_, []) => some .span
  | (span, _ :: field) =>
      match field.span (· != '\x7d') with
      | (name, [_]) =>
          if name.isEmpty then none
          else if span.isEmpty && !name.contains '=' then some (.field (String.ofList name))
          else some .span
      | _ => none

def level? : List Char → Option Level
  | [] | ['='] => some .trace
  | '=' :: name => Level.ofName? name
  | _ => none

-- Where the brackets that are open at a place end: before the first that closes them outside of braces.
def splitBrackets (chars : List Char) : Option (List Char × List Char) :=
  let (span, rest) := chars.span fun c => c != ']' && c != '\x7b'
  match rest with
  | ']' :: rest => some (span, rest)
  | rest =>
      match rest.span (· != '\x7d') with
      | (field, close :: ']' :: rest) => some (span ++ field ++ [close], rest)
      | _ => none

def ofTarget? (target rest : List Char) : Option Rule :=
  match rest with
  | '[' :: rest =>
      match splitBrackets rest with
      | none => none
      | some (inner, rest) =>
          match demand? inner, level? rest with
          | some demand, some level => some ⟨String.ofList target, demand, level⟩
          | _, _ => none
  | rest => (level? rest).map fun level => ⟨String.ofList target, .nothing, level⟩

-- A text alone is a level, if it is the name of one, or else a target that lets all levels pass.
def parse? (text : List Char) : Option Rule :=
  let (target, rest) := text.span fun c => c != '=' && c != '['
  match text.dropWhile Char.isWhitespace with
  | [] => none
  | first :: _ =>
      if !(isTargetStart first || first == '[') then none
      else if !rest.isEmpty && text.head?.any Char.isWhitespace then none
      else if rest.isEmpty then
        match Level.ofName? target with
        | some level => some ⟨"", .nothing, level⟩
        | none => some ⟨String.ofList target, .nothing, .trace⟩
      else ofTarget? target rest

def appliesTo (rule : Rule) (origin : Origin) : Bool :=
  rule.target.toList.isPrefixOf origin.target.toList &&
    match rule.demand with
    | .nothing => true
    | .field name => origin.fields.contains name
    | .span => false

def yieldsTo (rule later : Rule) : Bool :=
  rule.target.length < later.target.length ||
    (rule.target.length = later.target.length && (rule.demand = .nothing || later.demand ≠ .nothing))

end Rule

abbrev Filter := List Rule

namespace Filter

def default : Filter := [⟨"", .nothing, .info⟩]

-- An empty filter lets errors pass.
def parse? (text : String) : Option Filter :=
  let rules := (text.toList.splitOn ',').filter (!·.isEmpty)
  if rules.isEmpty then some [⟨"", .nothing, .error⟩] else rules.mapM Rule.parse?

def ofSetting (setting : Option String) : Filter := (setting.bind parse?).getD default

-- The rule for a note: one with the longest target, and of those the last.
def rule? (filter : Filter) (origin : Origin) : Option Rule :=
  (filter.filter (·.appliesTo origin)).foldl (fun best rule =>
    match best with
    | some known => if known.yieldsTo rule then some rule else some known
    | none => some rule) none

def passes (filter : Filter) (origin : Origin) : Bool :=
  match filter.rule? origin with
  | some rule => origin.level.rank ≤ rule.level.rank
  | none => false

end Filter
end ChainExplorer.Journal
