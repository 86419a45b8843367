import ChainExplorer.Screen.Row
import ChainExplorer.Search.Input

set_option autoImplicit false

namespace ChainExplorer.Screen

structure SearchBar where
  input : Search.Input
  focused : Bool
  loading : Bool
deriving Repr, DecidableEq

namespace SearchBar

def hint : String := "block height, hash, transaction or address"

def title (bar : SearchBar) : String := if bar.loading then " Search (loading...) " else " Search "

def frameStyle (bar : SearchBar) : Style := if bar.focused then .accent else .border

def beforeCursor (bar : SearchBar) : String :=
  String.ofList (bar.input.display.toList.take bar.input.cursor)

def afterCursor (bar : SearchBar) : String :=
  String.ofList (bar.input.display.toList.drop bar.input.cursor)

def query (bar : SearchBar) : Line :=
  if bar.input.selected then [⟨bar.input.display, .selection⟩]
  else if bar.focused then [⟨bar.beforeCursor, .normal⟩, ⟨"│", .cursor⟩, ⟨bar.afterCursor, .normal⟩]
  else if bar.input.display.isEmpty then [⟨hint, .dimmed⟩]
  else [⟨bar.input.display, .normal⟩]

def line (bar : SearchBar) : Line := ⟨">", .dimmed⟩ :: ⟨" ", .normal⟩ :: bar.query

-- A row of one cell shows its beginning only.
def framed (style : Style) (left right : String) (inner : Row) : Nat → Row
  | 0 => []
  | 1 => [⟨left, style⟩]
  | _ => ⟨left, style⟩ :: inner ++ [⟨right, style⟩]

def top (bar : SearchBar) (width : Nat) : Row :=
  let style := bar.frameStyle
  let written := (bar.title.toList.take (width - 2)).map fun c => (⟨c.toString, style⟩ : Cell)
  framed style "┌" "┐" (written ++ List.replicate (width - 2 - written.length) ⟨"─", style⟩) width

def bottom (bar : SearchBar) (width : Nat) : Row :=
  framed bar.frameStyle "└" "┘" (List.replicate (width - 2) ⟨"─", bar.frameStyle⟩) width

def rows (bar : SearchBar) (width : Nat) : Nat → List Row
  | 0 => []
  | 1 => [bar.top width]
  | height =>
      let inside := (bar.line.rows (width - 2) (height - 2)).map fun inner =>
        framed bar.frameStyle "│" "│" inner width
      bar.top width :: inside ++ [bar.bottom width]

end SearchBar
end ChainExplorer.Screen
