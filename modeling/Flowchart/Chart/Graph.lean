/-! The graph of a chart: numbered nodes and the edges between them, each edge once. -/
namespace Flowchart

/-- What kind of statement a node stands for. -/
inductive NodeKind
  | function
  | declaration
  | condition
  | loop
  | expression
  | exit
deriving DecidableEq, Inhabited, Repr

/-- The answer of a condition on which an edge is taken. -/
inductive Branch
  | whenTrue
  | whenFalse
deriving DecidableEq, Inhabited, Repr

def Branch.word : Branch → String
  | whenTrue => "true"
  | whenFalse => "false"

structure Node where
  label : String
  kind : NodeKind
deriving DecidableEq, Inhabited, Repr

/-- An edge between nodes by number. -/
structure Edge where
  source : Nat
  target : Nat
  branch : Option Branch
deriving DecidableEq, Inhabited, Repr

/-- Nodes and edges in the order they were added. -/
structure Graph where
  nodes : Array Node
  edges : Array Edge
deriving DecidableEq, Inhabited, Repr

/-- Labels stand between double quotes, so they hold single quotes only. -/
def escapeLabel (text : String) : String :=
  text.map fun c => if c == '"' then '\'' else c

/-- The name of a node by its number. -/
def nodeId (n : Nat) : String := "node" ++ toString n

namespace Graph

def empty : Graph := ⟨#[], #[]⟩

/-- Adds a node, whose number is the old count of nodes. -/
def addNode (g : Graph) (label : String) (kind : NodeKind) : Graph :=
  { g with nodes := g.nodes.push ⟨escapeLabel label, kind⟩ }

/-- Adds an edge, unless the graph has it. -/
def addEdge (g : Graph) (source target : Nat) (branch : Option Branch) : Graph :=
  let edge : Edge := ⟨source, target, branch⟩
  if edge ∈ g.edges then g else { g with edges := g.edges.push edge }

end Graph

end Flowchart
