import Flowchart.Chart.Graph

/-! Charts as Mermaid text, and the container in which a page shows it. -/
namespace Flowchart

/-- The line of an edge between two named nodes. -/
def edgeLine (source target : String) : Option Branch → String
  | some branch => source ++ " -->|" ++ branch.word ++ "| " ++ target
  | none => source ++ " --> " ++ target

def Node.mermaidLine (node : Node) (n : Nat) : String :=
  nodeId n ++ "[\"" ++ node.label ++ "\"]"

def Edge.mermaidLine (edge : Edge) : String :=
  edgeLine (nodeId edge.source) (nodeId edge.target) edge.branch

/-- The lines of a chart: its direction, its nodes, its edges. -/
def Graph.mermaidLines (g : Graph) : List String :=
  "flowchart LR" :: (g.nodes.toList.zipIdx.map fun (node, n) => node.mermaidLine n) ++
    g.edges.toList.map Edge.mermaidLine

def Graph.mermaid (g : Graph) : String := "\n".intercalate g.mermaidLines

/-- The element whose text a page draws as a chart. -/
def mermaidBlock (chart : String) : String := "<div class=\"mermaid\">" ++ chart ++ "</div>"

end Flowchart
