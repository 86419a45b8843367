import ChainExplorer.Screen.Style
import ChainExplorer.Text.Cluster
import ChainExplorer.Text.Width

set_option autoImplicit false

namespace ChainExplorer.Screen

structure Cell where
  symbol : String
  style : Style
deriving Repr, DecidableEq

abbrev Row := List Cell

def Cell.blank : Cell := ⟨" ", .normal⟩

def blankRow (width : Nat) : Row := List.replicate width .blank

def blankRows (width height : Nat) : List Row := List.replicate height (blankRow width)

def rowText (row : Row) : String := String.join (row.map Cell.symbol)

structure Span where
  text : String
  style : Style := .normal
deriving Repr, DecidableEq

abbrev Line := List Span

structure Glyph where
  text : List Char
  style : Style
deriving Repr, DecidableEq

namespace Glyph

def width (glyph : Glyph) : Nat := Text.width glyph.text

def cells (glyph : Glyph) : List Cell :=
  ⟨String.ofList glyph.text, glyph.style⟩ :: blankRow (glyph.width - 1)

end Glyph

def isControl (c : Char) : Bool := c.toNat < 0x20 || (0x7F ≤ c.toNat && c.toNat ≤ 0x9F)

-- The clusters of a span. Those with a control are not painted.
def Span.glyphs (span : Span) : List Glyph :=
  ((Text.clusters span.text.toList).filter fun cluster => !cluster.any isControl).map (⟨·, span.style⟩)

def Line.glyphs (line : Line) : List Glyph := line.flatMap Span.glyphs

-- A glyph wider than the whole row is passed over; the first that does not fit into the room ends the row.
def paintGlyphs (width : Nat) : Nat → List Glyph → Row
  | room, [] => blankRow room
  | room, glyph :: rest =>
      if width < glyph.width || glyph.width = 0 then paintGlyphs width room rest
      else if room < glyph.width then blankRow room
      else glyph.cells ++ paintGlyphs width (room - glyph.width) rest

def Line.paint (line : Line) (width : Nat) : Row := paintGlyphs width width line.glyphs

def Line.rows (line : Line) (width height : Nat) : List Row :=
  match height with
  | 0 => []
  | below + 1 => line.paint width :: blankRows width below

end ChainExplorer.Screen
