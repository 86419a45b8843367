import ChainExplorer.Explorer
import ChainExplorer.Screen.HelpBar
import ChainExplorer.Screen.ResultsPane
import ChainExplorer.Screen.SearchBar
import ChainExplorer.Screen.StatusBar

set_option autoImplicit false

namespace ChainExplorer.Screen

structure Layout where
  search : Nat
  results : Nat
  status : Nat
  help : Nat
deriving Repr, DecidableEq

-- Three rows of results go before all else; what is left goes to them too.
def Layout.ofHeight (height : Nat) : Layout :=
  let results := min height 3
  let search := min (height - results) 3
  let status := min (height - results - search) 1
  let help := min (height - results - search - status) 1
  ⟨search, results + (height - results - search - status - help), status, help⟩

def draw (explorer : Explorer) (width height : Nat) : Explorer × List Row :=
  let layout := Layout.ofHeight height
  let controller := explorer.controller
  let results := explorer.view.results
  let searchBar : SearchBar := ⟨controller.input, controller.focused, controller.loading⟩
  let helpBar : HelpBar :=
    ⟨controller.focused, explorer.view.history.canGoBack, explorer.view.history.canGoForward⟩
  ({ explorer with view.results := ResultsPane.drawn results width layout.results },
   searchBar.rows width layout.search ++ ResultsPane.rows results width layout.results
     ++ StatusBar.rows explorer.lastOutcome width layout.status ++ helpBar.rows width layout.help)

end ChainExplorer.Screen
