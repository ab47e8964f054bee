import Flowchart.Chart.Graph

/-! Graphs whose edges join nodes that they have. Every graph that is built from the empty one by
adding nodes, and edges between nodes already there, is of this kind. -/
namespace Flowchart.Graph

def Closed (g : Graph) : Prop := ∀ e ∈ g.edges, e.source < g.nodes.size ∧ e.target < g.nodes.size

/-- The node that flows in, if there is one, is a node of the graph. -/
def Knows (g : Graph) (incoming : Option Nat) : Prop := ∀ m, incoming = some m → m < g.nodes.size

theorem closed_empty : empty.Closed := nofun

theorem knows_none (g : Graph) : g.Knows none := by
  intro m given
  cases given

theorem nodes_addEdge (g : Graph) (source target : Nat) (branch : Option Branch) :
    (g.addEdge source target branch).nodes = g.nodes := by
  unfold addEdge
  dsimp only
  split <;> rfl

theorem mem_addEdge {g : Graph} {source target : Nat} {branch : Option Branch} {e : Edge} :
    e ∈ (g.addEdge source target branch).edges ↔ e ∈ g.edges ∨ e = ⟨source, target, branch⟩ := by
  unfold addEdge
  dsimp only
  split
  · rename_i known
    constructor
    · exact .inl
    · rintro (old | rfl)
      · exact old
      · exact known
  · exact Array.mem_push

theorem edges_addEdge_of_fresh {g : Graph} {e : Edge} (fresh : e ∉ g.edges) :
    (g.addEdge e.source e.target e.branch).edges = g.edges.push e := by
  simp only [addEdge, if_neg fresh]

theorem Closed.addNode {g : Graph} (closed : g.Closed) (label : String) (kind : NodeKind) :
    (g.addNode label kind).Closed := by
  intro e member
  have ends := closed e member
  simp only [Graph.addNode, Array.size_push]
  omega

end Flowchart.Graph
