import Flowchart.Fault
import Flowchart.Text.Blank
import Flowchart.Tree.Cursor

/-! Finding the first error of a tree, and wording it. -/
namespace Flowchart.Tree

/-- The first node in document order that is missing or a fault. -/
def firstError? (t : Tree) : Option Tree := (Cursor.start t).firstError?

/-- The first leaf of a tree. -/
def firstLeaf : Tree → Tree
  | node info [] => node info []
  | node _ (first :: _) => firstLeaf first

/-- The text that an error is named by: that of the first leaf, or that of the whole node if the
leaf is blank. -/
def errorText (source : String) (t : Tree) : String :=
  let ofLeaf := (t.firstLeaf.span.slice? source).filter fun text => !Text.isBlankText text
  (ofLeaf.or (t.span.slice? source)).getD ""

/-- What is wrong at a node. -/
def errorDetail (source : String) (t : Tree) : String :=
  match t.info.origin with
  | .missing => "Missing " ++ t.kind
  | _ => "Unexpected token " ++ Text.firstToken (t.errorText source)

/-- A fault at the start of a node. -/
def faultAt (t : Tree) (detail : String) : ParseFault :=
  { message := "Line " ++ toString (t.info.row + 1) ++ ": " ++ detail
    line := some t.info.row
    column := some t.info.column }

/-- The first error of a tree. -/
def parseFault (source : String) (t : Tree) : ParseFault :=
  let place := t.firstError?.getD t
  place.faultAt (place.errorDetail source)

end Flowchart.Tree
