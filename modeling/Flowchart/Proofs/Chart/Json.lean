import Flowchart.Chart.Format
import Flowchart.Proofs.Json.Printed

/-! The JSON text of a chart is JSON, lists its nodes and edges in their order, and gives back the
whole chart. -/
namespace Flowchart

open Json

def Node.listed (node : Node) (n : Nat) : Value :=
  .record [("group", .text node.kind.group), ("id", .text (nodeId n)), ("label", .text node.label)]

def Edge.listed (edge : Edge) : Value :=
  .record [("from", .text (nodeId edge.source)),
    ("label", .text ((edge.branch.map Branch.word).getD "")), ("to", .text (nodeId edge.target))]

/-- A chart as the records of its edges and its nodes. -/
def Graph.listed (g : Graph) : Value :=
  .record [("edges", .list (g.edges.toList.map Edge.listed)),
    ("nodes", .list (g.nodes.toList.zipIdx.map fun (node, n) => node.listed n))]

namespace Json.Value

def field? (key : String) : Value → Option Value
  | .record fields => fields.lookup key
  | _ => none

def text? : Value → Option String
  | .text content => some content
  | _ => none

def list? : Value → Option (List Value)
  | .list items => some items
  | _ => none

def kind? (v : Value) : Option NodeKind := do
  let group ← (← v.field? "group").text?
  [.function, .declaration, .condition, .loop, .expression, .exit].find? fun kind =>
    kind.group == group

def branch? (v : Value) : Option (Option Branch) := do
  let label ← (← v.field? "label").text?
  [none, some .whenTrue, some .whenFalse].find? fun branch =>
    (branch.map Branch.word).getD "" == label

def node? (v : Value) : Option Node := do
  let label ← (← v.field? "label").text?
  let kind ← v.kind?
  return ⟨label, kind⟩

def edge? (v : Value) : Option Edge := do
  let source ← Text.readName? (← (← v.field? "from").text?)
  let target ← Text.readName? (← (← v.field? "to").text?)
  let branch ← v.branch?
  return ⟨source, target, branch⟩

/-- The chart whose records a value is. -/
def graph? (v : Value) : Option Graph := do
  let nodes ← (← (← v.field? "nodes").list?).mapM node?
  let edges ← (← (← v.field? "edges").list?).mapM edge?
  return ⟨nodes.toArray, edges.toArray⟩

end Json.Value

theorem Node.node?_listed (node : Node) (n : Nat) : (node.listed n).node? = some node := by
  obtain ⟨label, kind⟩ := node
  cases kind <;> rfl

theorem Edge.edge?_listed (edge : Edge) : edge.listed.edge? = some edge := by
  obtain ⟨source, target, branch⟩ := edge
  have source? : (Edge.listed ⟨source, target, branch⟩).field? "from" =
      some (.text (nodeId source)) := rfl
  have target? : (Edge.listed ⟨source, target, branch⟩).field? "to" =
      some (.text (nodeId target)) := rfl
  have branch? : (Edge.listed ⟨source, target, branch⟩).branch? = some branch := by
    rcases branch with _ | _ | _ <;> rfl
  simp only [Value.edge?, source?, target?, branch?, Value.text?, Option.bind_eq_bind,
    Option.bind_some, Text.readName?_nodeId]
  rfl

theorem mapM_map {α β γ : Type} {write : α → β} {read : β → Option γ} {value : α → γ} (xs : List α)
    (reads : ∀ x, read (write x) = some (value x)) :
    (xs.map write).mapM read = some (xs.map value) := by
  induction xs with
  | nil => rfl
  | cons x xs ih =>
    rw [List.map_cons, List.mapM_cons, reads, ih]
    rfl

namespace Graph

theorem value_jsonValue (g : Graph) : g.jsonValue.value = g.listed := by
  simp only [jsonValue, listed, value, fieldValues, values_eq_map, List.map_map]
  rfl

theorem graph?_listed (g : Graph) : g.listed.graph? = some g := by
  have nodes? : g.listed.field? "nodes" =
      some (.list (g.nodes.toList.zipIdx.map fun (node, n) => node.listed n)) := rfl
  have edges? : g.listed.field? "edges" = some (.list (g.edges.toList.map Edge.listed)) := rfl
  have nodes : (g.nodes.toList.zipIdx.map fun (node, n) => node.listed n).mapM Value.node? =
      some (g.nodes.toList.zipIdx.map Prod.fst) :=
    mapM_map g.nodes.toList.zipIdx fun (node, n) => node.node?_listed n
  have edges : (g.edges.toList.map Edge.listed).mapM Value.edge? = some (g.edges.toList.map id) :=
    mapM_map g.edges.toList Edge.edge?_listed
  rw [List.zipIdx_map_fst] at nodes
  rw [List.map_id] at edges
  simp only [Value.graph?, nodes?, edges?, Value.list?, Option.bind_eq_bind, Option.bind_some,
    nodes, edges]
  rfl

/-- The JSON text of a chart means its records and nothing else; the chart is read from them, so two
charts never have the same text. -/
theorem json_round_trip (g : Graph) :
    (∀ v, Denotes (g.render .json) v ↔ v = g.listed) ∧ g.listed.graph? = some g ∧
      ∀ h : Graph, g.render .json = h.render .json ↔ g = h := by
  have denotes (g : Graph) (v : Value) : Denotes (g.render .json) v ↔ v = g.listed := by
    rw [← value_jsonValue]
    exact denotes_pretty g.jsonValue v
  refine ⟨denotes g, graph?_listed g, ?_⟩
  intro h
  constructor
  · intro same
    have listed : g.listed = h.listed := by
      rw [← denotes h, ← same, denotes g]
    have graphs : some g = some h := by
      rw [← graph?_listed g, ← graph?_listed h, listed]
    exact Option.some.inj graphs
  · exact fun same => same ▸ rfl

end Graph

end Flowchart
