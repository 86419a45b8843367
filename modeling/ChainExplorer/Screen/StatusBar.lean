import ChainExplorer.Screen.Row
import ChainExplorer.Search.Controller

set_option autoImplicit false

namespace ChainExplorer.Screen

open Search (Outcome)

namespace StatusBar

-- The line for an outcome; before the first there is nothing to say, as there is about a stale answer.
def line : Option Outcome → Line
  | none | some .stale => []
  | some (.rendered kind) => [⟨"✓ ", .success⟩, ⟨"Found " ++ kind.name, .success⟩]
  | some (.unknownKind name) => [⟨"⚠ ", .warning⟩, ⟨"Unknown object type " ++ name, .warning⟩]
  | some (.failed message) => [⟨"✗ ", .error⟩, ⟨message.getD "Search failed", .error⟩]

def rows (outcome : Option Outcome) (width height : Nat) : List Row := (line outcome).rows width height

end StatusBar
end ChainExplorer.Screen
