import Flowchart.Chart.Graph

/-! Charts in the DOT language, one statement on a line. -/
namespace Flowchart

/-- How nodes of a kind are drawn. -/
structure DotStyle where
  shape : String
  color : String
  style : String
deriving DecidableEq, Repr

def NodeKind.dotStyle : NodeKind → DotStyle
  | function => ⟨"box", "lightblue", "filled,rounded"⟩
  | declaration => ⟨"box", "lightyellow", "filled"⟩
  | condition => ⟨"diamond", "orange", "filled"⟩
  | loop => ⟨"hexagon", "violet", "filled"⟩
  | expression => ⟨"box", "white", "filled"⟩
  | exit => ⟨"box", "pink", "filled,rounded"⟩

/-- A character inside the quotes of a label. -/
def dotEscapeChar (c : Char) : List Char :=
  if c == '\\' then ['\\', '\\'] else if c == '\n' then ['\\', 'n'] else [c]

def dotEscape (label : String) : String := String.ofList (label.toList.flatMap dotEscapeChar)

def dotHeader : String :=
  "digraph flowchart \x7b\n" ++
  "    graph [fontname=\"Arial\", rankdir=LR, splines=true];\n" ++
  "    node [fontname=\"Arial\"];\n" ++
  "    edge [fontname=\"Arial\"];\n\n"

def Node.dotLine (node : Node) (n : Nat) : String :=
  let style := node.kind.dotStyle
  "    " ++ nodeId n ++ " [label=\"" ++ dotEscape node.label ++ "\", shape=" ++ style.shape ++
    ", fillcolor=\"" ++ style.color ++ "\", style=\"" ++ style.style ++ "\"];\n"

def Edge.dotLine (edge : Edge) : String :=
  let ends := "    " ++ nodeId edge.source ++ " -> " ++ nodeId edge.target
  match edge.branch with
  | some branch => ends ++ " [label=\"" ++ branch.word ++ "\"];\n"
  | none => ends ++ ";\n"

def Graph.dot (g : Graph) : String :=
  dotHeader ++ String.join (g.nodes.toList.zipIdx.map fun (node, n) => node.dotLine n) ++
    String.join (g.edges.toList.map Edge.dotLine) ++ "\x7d\n"

end Flowchart
