import Flowchart.Chart.Graph
import Flowchart.Fault
import Flowchart.Statement

/-! Walking a statement tree into a graph. Each statement is told which node flows into it and
answers the last node of its own flow; a failing walk leaves what it had added. -/
namespace Flowchart

/-- Statement levels that a parser accepts. -/
def statementLimit : Nat := 256

/-- Levels of a tree that a walk accepts: each statement level may add a block. -/
def walkLimit : Nat := 2 * statementLimit + 1

/-- A step of a walk: it may fail, and keeps the graph either way. -/
abbrev Walk (α : Type) := ExceptT WalkFault (StateM Graph) α

namespace Walk

/-- The piece of the script that a label shows. -/
def text (source : String) (span : Span) : Walk String :=
  match span.slice? source with
  | some piece => return piece
  | none => throw (.outside span source.utf8ByteSize)

/-- The text of one declared name with its value. -/
def declarator (source : String) (d : Declarator) : Walk String := do
  let name ← text source d.name
  let value ← match d.value with
    | some span => text source span
    | none => pure "undefined"
  return name ++ " = " ++ value

def declarators (source : String) : List Declarator → Walk (List String)
  | [] => return []
  | d :: rest => return (← declarator source d) :: (← declarators source rest)

/-- Adds a statement's node behind the node that flows into it. -/
def place (label : String) (kind : NodeKind) (incoming : Option Nat) : Walk Nat := do
  let g ← get
  let current := g.nodes.size
  let g := g.addNode label kind
  set (match incoming with
    | some before => g.addEdge before current none
    | none => g)
  return current

/-- Joins two nodes, if the second is there. -/
def joinTo (current : Nat) (branch : Branch) : Option Nat → Walk Unit
  | some last => modify fun g => g.addEdge current last (some branch)
  | none => pure ()

/-- Leads back from the last node of a body to its loop. -/
def loopBack (current : Nat) : Option Nat → Walk Unit
  | some last => modify fun g => g.addEdge last current none
  | none => pure ()

/-- Fails below the levels that a walk accepts, counted from 0. -/
def guardLevel (level : Nat) : Walk Unit :=
  if walkLimit ≤ level then throw (.tooDeep walkLimit) else return ()

mutual

/-- Walks a statement at a level. -/
def visit (source : String) (level : Nat) (incoming : Option Nat) : Statement → Walk (Option Nat)
  | .program _ body => do
    guardLevel level
    visitAll source (level + 1) none body
  | .block _ body => do
    guardLevel level
    visitAll source (level + 1) incoming body
  | .function _ name body => do
    guardLevel level
    let current ← place ("Function: " ++ (← text source name)) .function incoming
    -- What follows the declaration does not follow the end of its body.
    let _ ← visit source (level + 1) (some current) body
    return some current
  | .declaration _ ds => do
    guardLevel level
    place (", ".intercalate (← declarators source ds)) .declaration incoming
  | .conditional _ test consequent none => do
    guardLevel level
    let current ← place ("if (" ++ (← text source test) ++ ")") .condition incoming
    joinTo current .whenTrue (← visit source (level + 1) (some current) consequent)
    return some current
  | .conditional _ test consequent (some alternate) => do
    guardLevel level
    let current ← place ("if (" ++ (← text source test) ++ ")") .condition incoming
    joinTo current .whenTrue (← visit source (level + 1) (some current) consequent)
    joinTo current .whenFalse (← visit source (level + 1) (some current) alternate)
    return some current
  | .loop _ test body => do
    guardLevel level
    let current ← place ("while (" ++ (← text source test) ++ ")") .loop incoming
    loopBack current (← visit source (level + 1) (some current) body)
    return some current
  | .expression span => do
    guardLevel level
    place (← text source span) .expression incoming
  | .exit _ (some argument) => do
    guardLevel level
    place ("return " ++ (← text source argument)) .exit incoming
  | .exit _ none => do
    guardLevel level
    place "return " .exit incoming
  | .unsupported _ _ => do
    guardLevel level
    return none

/-- Walks statements in order, each behind the one before. A statement without a node cuts the
chain. -/
def visitAll (source : String) (level : Nat) (incoming : Option Nat) :
    List Statement → Walk (Option Nat)
  | [] => return incoming
  | s :: rest => do
    visitAll source level (← visit source level incoming s) rest

end

/-- A walk gets past a statement that is not too deep and whose label shows pieces of the script. -/
def passes (source : String) : Nat × Statement → Bool
  | (level, s) => decide (level < walkLimit) && s.labelSpans.all fun span => (span.slice? source).isSome

/-- The unsupported statements that a walk of a tree comes to, up to where it fails. -/
def passedOver (source : String) (tree : Statement) : List (Span × String) :=
  ((tree.reached 0).takeWhile (passes source)).filterMap fun place => place.2.unsupported?

end Walk

/-- Walks a tree into a graph, with nothing flowing in. The graph keeps what a failing walk had
added. -/
def Graph.walk (g : Graph) (source : String) (tree : Statement) :
    Except WalkFault (Option Nat) × Graph :=
  ((Walk.visit source 0 none tree).run).run g

end Flowchart
