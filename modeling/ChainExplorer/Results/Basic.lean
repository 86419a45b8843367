import ChainExplorer.Results.Field

set_option autoImplicit false

namespace ChainExplorer

-- Containers are numbered in the order in which they are made.
abbrev ContainerId := Nat

structure FieldId where
  container : ContainerId
  index : Nat
deriving Repr, DecidableEq

structure Container where
  id : ContainerId
  title : String
  fields : List Field
deriving Repr, DecidableEq

namespace Container

def push (container : Container) (field : Field) : Container :=
  { container with fields := container.fields ++ [field] }

def hashFields (container : Container) : List FieldId :=
  container.fields.zipIdx.filterMap fun (field, index) =>
    if field.kind.bearsHash then some ⟨container.id, index⟩ else none

end Container

structure Results where
  containers : List Container
  nextId : ContainerId
  -- Rows hidden above the top of the screen.
  scroll : Nat
deriving Repr, DecidableEq

namespace Results

def empty : Results := ⟨[], 0, 0⟩

def create (results : Results) (title : String) (fields : List Field) : Results × Container :=
  ({ results with nextId := results.nextId + 1 }, ⟨results.nextId, title, fields⟩)

def push (results : Results) (container : Container) : Results :=
  { results with containers := results.containers ++ [container] }

def clear (results : Results) : Results := { results with containers := [], scroll := 0 }

def replace (results : Results) (container : Container) : Results := results.clear.push container

def isEmpty (results : Results) : Bool := results.containers.isEmpty

def container? (results : Results) (id : ContainerId) : Option Container :=
  results.containers.find? fun container => container.id == id

def field? (results : Results) (id : FieldId) : Option Field :=
  match results.container? id.container with
  | none => none
  | some container => container.fields[id.index]?

-- Changes a field of the first container with the given number.
def updateIn (id : FieldId) (change : Field → Field) : List Container → List Container
  | [] => []
  | container :: rest =>
      if container.id = id.container then
        { container with fields := container.fields.modify id.index change } :: rest
      else container :: updateIn id change rest

def update (results : Results) (id : FieldId) (change : Field → Field) : Results :=
  { results with containers := updateIn id change results.containers }

def hashFields (results : Results) (scope : Option ContainerId) : List FieldId :=
  let inScope (container : Container) : Bool :=
    match scope with
    | none => true
    | some id => container.id == id
  (results.containers.filter inScope).flatMap Container.hashFields

def scrollUp (results : Results) : Results := { results with scroll := results.scroll - 1 }

def scrollDown (results : Results) : Results := { results with scroll := results.scroll + 1 }

end Results
end ChainExplorer
