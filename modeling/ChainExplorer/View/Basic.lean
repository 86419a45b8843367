import ChainExplorer.History
import ChainExplorer.Results.Basic
import ChainExplorer.View.Payload

set_option autoImplicit false

namespace ChainExplorer

structure Rendering where
  aspect : Aspect
  object : Json.Value
deriving Repr, BEq

structure View where
  results : Results
  history : History
  -- Containers shown since they were last asked for, oldest first.
  rendered : List ContainerId
deriving Repr, DecidableEq

namespace View

def empty : View := ⟨.empty, .start, []⟩

def present (view : View) (container : Container) (key : Option String) : View :=
  { results := view.results.replace container
    history := match key with
      | none => view.history
      | some key => view.history.push (some key)
    rendered := view.rendered ++ [container.id] }

def render (view : View) (rendering : Rendering) : View :=
  let (results, container) := view.results.create rendering.aspect.title
    (rendering.aspect.fields rendering.object)
  { view with results }.present container (rendering.aspect.key? rendering.object)

def takeRendered (view : View) : View × List ContainerId := ({ view with rendered := [] }, view.rendered)

end View
end ChainExplorer
