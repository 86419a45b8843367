import ChainExplorer.Screen.Row

set_option autoImplicit false

namespace ChainExplorer.Screen

structure HelpBar where
  typing : Bool
  canGoBack : Bool
  canGoForward : Bool
deriving Repr, DecidableEq

namespace HelpBar

structure Hint where
  key : String
  action : String
deriving Repr, DecidableEq

-- Going back or forward is offered only where the history leads somewhere.
def hints (bar : HelpBar) : List Hint :=
  if bar.typing then [⟨"Enter", "search"⟩, ⟨"ESC", "leave input"⟩, ⟨"ctrl+c", "quit"⟩]
  else
    [⟨"/", "search"⟩] ++ (if bar.canGoBack then [⟨"b", "back"⟩] else [])
      ++ (if bar.canGoForward then [⟨"f", "forward"⟩] else []) ++ [⟨"j/k", "scroll"⟩, ⟨"q", "quit"⟩]

def Hint.line (hint : Hint) : Line :=
  [⟨hint.key, .accent⟩, ⟨":", .dimmed⟩, ⟨hint.action, .normal⟩]

def line (bar : HelpBar) : Line := (bar.hints.map Hint.line).intersperse [⟨"  ", .dimmed⟩] |>.flatten

def rows (bar : HelpBar) (width height : Nat) : List Row := bar.line.rows width height

end HelpBar
end ChainExplorer.Screen
