import Flowchart.Chart.Format
import Flowchart.Proofs.Chart.Built
import Flowchart.Proofs.Text.Taking

/-! The Mermaid text of a chart can be read back. Labels may hold line breaks and whole lines of a
chart, but no double quote, so a label ends at the first one; a node's name is followed by a bracket
and an edge's first name by an arrow, so it is clear where the edges begin. -/
namespace Flowchart

open Text

def arrow : Option Branch → String
  | some branch => " -->|" ++ branch.word ++ "| "
  | none => " --> "

/-- Takes the line of a node, and gives the label. -/
def takeNodeLine? (text : List Char) : Option (String × List Char) := do
  let (_, text) ← takeName? text
  let text ← takeWord? "[\"" text
  let (label, text) := text.span (· != '"')
  let text ← takeWord? "\"]\n" text
  return (String.ofList label, text)

def takeArrow? (text : List Char) : Option (Option Branch × List Char) :=
  [none, some .whenTrue, some .whenFalse].findSome? fun branch =>
    (takeWord? (arrow branch) text).map fun text => (branch, text)

def takeEdgeLine? (text : List Char) : Option (Edge × List Char) := do
  let (source, text) ← takeName? text
  let (branch, text) ← takeArrow? text
  let (target, text) ← takeName? text
  let text ← takeWord? "\n" text
  return (⟨source, target, branch⟩, text)

/-- The labels and the edges of the chart that a text shows. -/
def readMermaid? (text : String) : Option (List String × List Edge) := do
  let text ← takeWord? "flowchart LR\n" (text.toList ++ ['\n'])
  let (labels, text) := takeMany takeNodeLine? text
  let (edges, text) := takeMany takeEdgeLine? text
  if text.isEmpty then some (labels, edges) else none

def readMermaidBlock? (text : String) : Option (List String × List Edge) := do
  let text ← takeLast? "</div>" text.toList
  let chart ← takeWord? "<div class=\"mermaid\">" text
  readMermaid? (String.ofList chart)

def Graph.labels (g : Graph) : List String := g.nodes.toList.map Node.label

theorem takeNodeLine?_append {node : Node} (unquoted : '"' ∉ node.label.toList) (n : Nat)
    (rest : List Char) :
    takeNodeLine? ((node.mermaidLine n).toList ++ ['\n'] ++ rest) = some (node.label, rest) := by
  have line : (node.mermaidLine n).toList ++ ['\n'] ++ rest = (nodeId n).toList ++
      ("[\"".toList ++ (node.label.toList ++ ("\"]\n".toList ++ rest))) := by
    simp [Node.mermaidLine]
  have inside : ∀ c ∈ node.label.toList, (c != '"') = true := by
    intro c member
    exact bne_iff_ne.mpr fun quote => unquoted (quote ▸ member)
  rw [line, takeNodeLine?, takeName?_append n (by simp)]
  simp only [Option.bind_eq_bind, Option.bind_some, takeWord?_append]
  rw [span_append inside (by simp)]
  simp only [takeWord?_append, Option.bind_some, String.ofList_toList]
  rfl

theorem takeArrow?_append (branch : Option Branch) (rest : List Char) :
    takeArrow? ((arrow branch).toList ++ rest) = some (branch, rest) := by
  rcases branch with _ | _ | _ <;> rfl

theorem arrow_head (branch : Option Branch) (rest : List Char) :
    ∀ c ∈ ((arrow branch).toList ++ rest).head?, c.isDigit = false := by
  rcases branch with _ | _ | _ <;> simp [arrow]

theorem takeWord?_bracket_arrow (branch : Option Branch) (rest : List Char) :
    takeWord? "[\"" ((arrow branch).toList ++ rest) = none := by
  rcases branch with _ | _ | _ <;> rfl

theorem edgeLine_eq (edge : Edge) (rest : List Char) :
    edge.mermaidLine.toList ++ ['\n'] ++ rest = (nodeId edge.source).toList ++
      ((arrow edge.branch).toList ++ ((nodeId edge.target).toList ++ ("\n".toList ++ rest))) := by
  obtain ⟨source, target, _ | branch⟩ := edge <;> simp [Edge.mermaidLine, edgeLine, arrow]

theorem takeEdgeLine?_append (edge : Edge) (rest : List Char) :
    takeEdgeLine? (edge.mermaidLine.toList ++ ['\n'] ++ rest) = some (edge, rest) := by
  rw [edgeLine_eq, takeEdgeLine?, takeName?_append _ (arrow_head _ _)]
  simp only [Option.bind_eq_bind, Option.bind_some, takeArrow?_append]
  rw [takeName?_append _ (by simp)]
  simp only [Option.bind_some, takeWord?_append]
  rfl

/-- An arrow stands where a node's line has its bracket. -/
theorem takeNodeLine?_edge (edge : Edge) (rest : List Char) :
    takeNodeLine? (edge.mermaidLine.toList ++ ['\n'] ++ rest) = none := by
  rw [edgeLine_eq, takeNodeLine?, takeName?_append _ (arrow_head _ _)]
  simp only [Option.bind_eq_bind, Option.bind_some, takeWord?_bracket_arrow, Option.bind_none]

namespace Graph

variable {g h : Graph}

/-- The lines of the nodes, each with the line break behind it. -/
def nodeText (g : Graph) : List Char :=
  g.nodes.toList.zipIdx.flatMap fun (node, n) => (node.mermaidLine n).toList ++ ['\n']

def edgeText (g : Graph) : List Char :=
  g.edges.toList.flatMap fun edge => edge.mermaidLine.toList ++ ['\n']

theorem mermaid_eq (g : Graph) : g.mermaid.toList ++ ['\n'] =
    "flowchart LR\n".toList ++ (g.nodeText ++ g.edgeText) := by
  rw [mermaid, toList_lines (by simp [mermaidLines])]
  simp [mermaidLines, nodeText, edgeText, List.flatMap_map]

theorem takeNodeLine?_edgeText (g : Graph) : takeNodeLine? g.edgeText = none := by
  unfold edgeText
  cases g.edges.toList with
  | nil => rfl
  | cons edge rest => exact takeNodeLine?_edge edge _

theorem takeMany_nodeText (built : g.Built) :
    takeMany takeNodeLine? (g.nodeText ++ g.edgeText) = (g.labels, g.edgeText) := by
  have labels : (g.nodes.toList.zipIdx.map fun (node, _) => node.label) = g.labels := by
    rw [labels, ← List.zipIdx_map_fst 0 g.nodes.toList, List.map_map, List.zipIdx_map_fst]
    rfl
  rw [← labels]
  apply takeMany_flatMap (takeNodeLine?_edgeText g)
  · simp
  · rintro ⟨node, n⟩ member rest
    have stored : node ∈ g.nodes := Array.mem_toList_iff.mp (List.fst_mem_of_mem_zipIdx member)
    exact takeNodeLine?_append (built.unquoted node stored) n rest

theorem takeMany_edgeText (g : Graph) :
    takeMany takeEdgeLine? g.edgeText = (g.edges.toList, []) := by
  have taken : takeMany takeEdgeLine? (g.edgeText ++ []) = (g.edges.toList.map id, []) := by
    apply takeMany_flatMap
    · rfl
    · simp
    · exact fun edge _ rest => takeEdgeLine?_append edge rest
  rwa [List.append_nil, List.map_id] at taken

theorem readMermaid?_mermaid (built : g.Built) :
    readMermaid? (g.render .mermaid) = some (g.labels, g.edges.toList) := by
  simp only [render, readMermaid?, mermaid_eq, takeWord?_append, Option.bind_eq_bind, Option.bind_some,
    takeMany_nodeText built, takeMany_edgeText, List.isEmpty_nil, if_true]

theorem readMermaidBlock?_html (built : g.Built) :
    readMermaidBlock? (g.render .html) = some (g.labels, g.edges.toList) := by
  have block : (g.render .html).toList =
      "<div class=\"mermaid\">".toList ++ g.mermaid.toList ++ "</div>".toList := by
    change ("<div class=\"mermaid\">" ++ g.mermaid ++ "</div>").toList = _
    rw [String.toList_append, String.toList_append]
  have chart := readMermaid?_mermaid built
  rw [render] at chart
  simp only [readMermaidBlock?, block, takeLast?_append, Option.bind_eq_bind, Option.bind_some,
    takeWord?_append, String.ofList_toList, chart]

/-- The Mermaid text of a chart, alone or in its container, gives back the labels and the edges; so
charts with the same text differ at most in the kinds of their nodes. -/
theorem mermaid_determines (first : g.Built) (second : h.Built) :
    readMermaid? (g.render .mermaid) = some (g.labels, g.edges.toList) ∧
      readMermaidBlock? (g.render .html) = some (g.labels, g.edges.toList) ∧
      (g.render .mermaid = h.render .mermaid →
        g.nodes.size = h.nodes.size ∧ g.labels = h.labels ∧ g.edges = h.edges) := by
  refine ⟨readMermaid?_mermaid first, readMermaidBlock?_html first, ?_⟩
  intro same
  have read : some (g.labels, g.edges.toList) = some (h.labels, h.edges.toList) := by
    rw [← readMermaid?_mermaid first, ← readMermaid?_mermaid second, same]
  obtain ⟨labels, edges⟩ := Prod.mk.inj (Option.some.inj read)
  refine ⟨?_, labels, Array.toList_inj.mp edges⟩
  have sizes := congrArg List.length labels
  rwa [Graph.labels, Graph.labels, List.length_map, List.length_map, Array.length_toList,
    Array.length_toList] at sizes

/-- A chart whose first label goes on as the lines of another node and of an edge would. -/
def forged (kind : NodeKind) : Graph :=
  ((empty.addNode "a\"]\nnode1[b]\nnode1 -->|true| node0" kind).addNode "|c|\n" .exit).addEdge 0 1
    (some .whenFalse)

def forgedText : String :=
  "flowchart LR\nnode0[\"a']\nnode1[b]\nnode1 -->|true| node0\"]\nnode1[\"|c|\n\"]\n" ++
    "node0 -->|false| node1"

theorem forged_determined :
    ((forged .loop).Built ∧ (forged .condition).Built ∧ (forged .loop).render .mermaid =
      forgedText ∧ (forged .condition).render .mermaid = forgedText) ∧
    readMermaid? forgedText = some (["a']\nnode1[b]\nnode1 -->|true| node0", "|c|\n"],
      [⟨0, 1, some .whenFalse⟩]) ∧
    (forged .loop).labels = (forged .condition).labels := by
  have built (kind : NodeKind) : (forged kind).Built :=
    .edge (.node (.node .empty _ _) _ _) _ (by simp [addNode, empty]) (by simp [addNode, empty])
  have loop : (forged .loop).render .mermaid = forgedText := by decide +kernel
  have condition : (forged .condition).render .mermaid = forgedText := by decide +kernel
  have determined := mermaid_determines (built .loop) (built .condition)
  have stored : (forged .loop).labels = ["a']\nnode1[b]\nnode1 -->|true| node0", "|c|\n"] ∧
      (forged .loop).edges.toList = [⟨0, 1, some .whenFalse⟩] := by decide +kernel
  rw [stored.1, stored.2, loop] at determined
  exact ⟨⟨built _, built _, loop, condition⟩, determined.1,
    stored.1.trans (determined.2.2 condition.symm).2.1⟩

end Graph

end Flowchart
