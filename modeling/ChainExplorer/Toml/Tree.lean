import ChainExplorer.Toml.Value

set_option autoImplicit false

namespace ChainExplorer.Toml

inductive Origin where
  | header
  -- By the header of a table inside it.
  | implied
  | dotted
deriving Repr, DecidableEq

inductive Node where
  | value (value : Value)
  | table (origin : Origin) (members : List (String × Node))
  | tables (items : List (List (String × Node)))
deriving Inhabited

abbrev Members := List (String × Node)

namespace Members

def replace (name : String) (node : Node) : Members → Members
  | [] => []
  | (other, known) :: rest =>
      if other = name then (name, node) :: rest else (other, known) :: replace name node rest

def add (members : Members) (name : String) (node : Node) : Members := members ++ [(name, node)]

-- A table on the way must have come about by dotted keys; one before the last may also have been implied.
def define : Members → List String → Value → Option Members
  | _, [], _ => none
  | members, [name], value =>
      match members.lookup name with
      | none => some (members.add name (.value value))
      | some _ => none
  | members, name :: names, value =>
      match members.lookup name with
      | none => (define [] names value).map fun inner => members.add name (.table .dotted inner)
      | some (.table .dotted inner) =>
          (define inner names value).map fun inner => members.replace name (.table .dotted inner)
      | some (.table .implied inner) =>
          if names.length ≤ 1 then none
          else (define inner names value).map fun inner => members.replace name (.table .implied inner)
      | some _ => none

def within (change : Members → Option Members) : Members → List String → Option Members
  | members, [] => change members
  | members, name :: names =>
      match members.lookup name with
      | none => (within change [] names).map fun inner => members.add name (.table .implied inner)
      | some (.table origin inner) =>
          (within change inner names).map fun inner => members.replace name (.table origin inner)
      | some (.tables items) =>
          match items.getLast? with
          | none => none
          | some inner =>
              (within change inner names).map fun inner => members.replace name (.tables (items.dropLast ++ [inner]))
      | some (.value _) => none

-- A table that was only implied so far is taken over.
def openTable (name : String) (members : Members) : Option Members :=
  match members.lookup name with
  | none => some (members.add name (.table .header []))
  | some (.table .implied inner) => some (members.replace name (.table .header inner))
  | some _ => none

def openNext (name : String) (members : Members) : Option Members :=
  match members.lookup name with
  | none => some (members.add name (.tables [[]]))
  | some (.tables items) => some (members.replace name (.tables (items ++ [[]])))
  | some _ => none

def atHeader (change : String → Members → Option Members) (members : Members) (names : List String) :
    Option Members :=
  match names.getLast? with
  | none => none
  | some last => members.within (change last) names.dropLast

end Members

mutual
def Node.toValue : Node → Value
  | .value value => value
  | .table _ members => .table (toDocument members)
  | .tables items => .array (toTables items)

def toDocument : List (String × Node) → Document
  | [] => []
  | (name, node) :: rest => (name, node.toValue) :: toDocument rest

def toTables : List (List (String × Node)) → List Value
  | [] => []
  | members :: rest => .table (toDocument members) :: toTables rest
end

end ChainExplorer.Toml
