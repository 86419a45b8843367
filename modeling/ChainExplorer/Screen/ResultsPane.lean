import ChainExplorer.Results.Basic
import ChainExplorer.Screen.Row

set_option autoImplicit false

namespace ChainExplorer.Screen.ResultsPane

def indent : Nat := 2

def labelGap : Nat := 2

def maxLabelWidth : Nat := 20

def maxRows : Nat := 65535

def hint : Line := [⟨"Search for a block height, block hash, transaction hash or address", .dimmed⟩]

def labelWidth (results : Results) : Nat :=
  let fields := results.containers.flatMap Container.fields
  min maxLabelWidth ((fields.map fun field => Text.joinedWidth field.label).foldl max 0)

def valueWidth (results : Results) (width : Nat) : Nat :=
  width - (indent + labelWidth results + labelGap)

def padded (width : Nat) (text : String) : String :=
  text ++ String.ofList (List.replicate (width - text.length) ' ')

def fieldLine (labelWidth : Nat) (field : Field) : Line :=
  [⟨String.ofList (List.replicate indent ' '), .normal⟩,
   ⟨padded labelWidth field.label, .label⟩,
   ⟨String.ofList (List.replicate labelGap ' '), .normal⟩,
   ⟨field.value.getD "", if field.kind.bearsHash then .hash else .normal⟩]

def containerLines (labelWidth : Nat) (container : Container) : List Line :=
  [⟨container.title, .title⟩] :: container.fields.map (fieldLine labelWidth) ++ [[]]

def lines (results : Results) : List Line :=
  results.containers.flatMap (containerLines (labelWidth results))

def record (results : Results) (box : Box) : Results :=
  { results with
    containers := results.containers.map fun container =>
      { container with fields := container.fields.map (·.setBox box) } }

-- The results after they have been drawn: boxes are recorded, and no more is scrolled than there is.
def drawn (results : Results) (width height : Nat) : Results :=
  if results.isEmpty then results
  else
    { record results ⟨valueWidth results width, 1⟩ with
      scroll := min results.scroll ((lines results).length - height) }

-- The lines on display. Nothing is shown of a document below the rows that can be counted.
def visible (results : Results) (scroll height : Nat) : List Line :=
  if min scroll maxRows + height ≤ maxRows then ((lines results).drop (min scroll maxRows)).take height
  else []

def rows (results : Results) (width height : Nat) : List Row :=
  if results.isEmpty then hint.rows width height
  else
    let shown := visible results (drawn results width height).scroll height
    shown.map (·.paint width) ++ blankRows width (height - shown.length)

end ChainExplorer.Screen.ResultsPane
