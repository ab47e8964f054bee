import Flowchart.Proofs.Chart.Closed

/-! Two graphs as one. The nodes of the second are numbered on behind those of the first, and its
edges move with them, so no edge joins the two. -/
namespace Flowchart

/-- The edge between the nodes whose numbers are higher by `n`. -/
def Edge.shift (n : Nat) (e : Edge) : Edge := ⟨e.source + n, e.target + n, e.branch⟩

theorem Edge.shift_inj {n : Nat} {e e' : Edge} : e.shift n = e'.shift n ↔ e = e' := by
  constructor
  · intro same
    simp only [Edge.shift, Edge.mk.injEq, Nat.add_right_cancel_iff] at same
    obtain ⟨source, target, branch⟩ := same
    cases e
    cases e'
    simp only [Edge.mk.injEq]
    exact ⟨source, target, branch⟩
  · exact congrArg _

namespace Graph

def beside (g h : Graph) : Graph :=
  ⟨g.nodes ++ h.nodes, g.edges ++ h.edges.map (Edge.shift g.nodes.size)⟩

/-- The nodes with their names, the first of them with the number `n`. -/
def named (g : Graph) (n : Nat) : List (String × Node) :=
  (g.nodes.toList.zipIdx n).map fun (node, m) => (nodeId m, node)

variable {g h : Graph} {e : Edge}

theorem beside_empty (g : Graph) : g.beside empty = g := by
  simp only [beside, empty, List.map_toArray, List.map_nil, Array.append_empty]

theorem size_beside (g h : Graph) : (g.beside h).nodes.size = g.nodes.size + h.nodes.size :=
  Array.size_append

theorem named_beside (g h : Graph) (n : Nat) :
    (g.beside h).named n = g.named n ++ h.named (n + g.nodes.size) := by
  simp only [named, beside, Array.toList_append, List.zipIdx_append, List.map_append,
    Array.length_toList]

theorem mem_beside :
    e ∈ (g.beside h).edges ↔ e ∈ g.edges ∨ ∃ e' ∈ h.edges, e'.shift g.nodes.size = e := by
  rw [beside, Array.mem_append, Array.mem_map]

/-- A new edge of the second graph meets none of the first. -/
theorem addEdge_beside (closed : g.Closed) (source target : Nat) (branch : Option Branch) :
    (g.beside h).addEdge (source + g.nodes.size) (target + g.nodes.size) branch =
      g.beside (h.addEdge source target branch) := by
  have known : ⟨source + g.nodes.size, target + g.nodes.size, branch⟩ ∈ (g.beside h).edges ↔
      ⟨source, target, branch⟩ ∈ h.edges := by
    rw [mem_beside]
    constructor
    · rintro (old | ⟨e, member, same⟩)
      · have inside : source + g.nodes.size < g.nodes.size := (closed _ old).1
        omega
      · have own : e = ⟨source, target, branch⟩ := Edge.shift_inj.mp same
        exact own ▸ member
    · exact fun member => .inr ⟨_, member, rfl⟩
  simp only [addEdge]
  by_cases member : ⟨source, target, branch⟩ ∈ h.edges
  · rw [if_pos member, if_pos (known.mpr member)]
  · rw [if_neg member, if_neg (mt known.mp member)]
    simp only [beside, Array.map_push, Array.append_push, Edge.shift]

end Graph

end Flowchart
