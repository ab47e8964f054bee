import Flowchart.Chart.Format
import Flowchart.Log
import Flowchart.Walk

/-! From the text of a script to its chart. How scripts are read is a parameter. -/
namespace Flowchart

/-- A way to read scripts. -/
abbrev Reader := String → Except Fault Statement

/-- The chart of a script: its graph, and the graph as Mermaid text. -/
structure Chart where
  graph : Graph
  text : String
deriving DecidableEq, Inhabited, Repr

/-- The finished chart in a format. -/
def Chart.block (chart : Chart) (format : ChartFormat) : ChartBlock :=
  match format with
  | .mermaid => ⟨format, chart.text⟩
  | _ => ⟨format, chart.graph.render format⟩

/-- The chart of a script. Each has a graph of its own, so its nodes are numbered from 0. -/
def synthesize (read : Reader) (source : String) : Except Fault Chart := do
  let tree ← read source
  match Graph.empty.walk source tree with
  | (.ok _, g) => return ⟨g, g.mermaid⟩
  | (.error fault, _) => throw (.walk fault)

/-- What happens on the way to the chart of a script, with the chart. -/
def synthesizeTelling (read : Reader) (source : String) : List Remark × Except Fault Chart :=
  match read source with
  | .error fault => ([], .error fault)
  | .ok tree =>
    let passed := (Walk.passedOver source tree).map fun statement => Remark.passedOver statement.1 statement.2
    match Graph.empty.walk source tree with
    | (.ok _, g) => (passed ++ [.synthesized g.nodes.size g.edges.size], .ok ⟨g, g.mermaid⟩)
    | (.error fault, _) => (passed, .error (.walk fault))

end Flowchart
