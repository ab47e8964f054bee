import Flowchart.Proofs.Chart.Closed

/-! Graphs as a program can build them: from the empty one, node by node, and edge by edge between
nodes that are there. -/
namespace Flowchart

theorem quote_not_mem_escapeLabel (text : String) : '"' ∉ (escapeLabel text).toList := by
  rw [escapeLabel, String.toList_map, List.mem_map]
  rintro ⟨c, _, same⟩
  split at same
  · cases same
  · rename_i other
    exact other (beq_iff_eq.mpr same)

namespace Graph

inductive Built : Graph → Prop
  | empty : Built empty
  | node {g : Graph} (built : Built g) (label : String) (kind : NodeKind) :
      Built (g.addNode label kind)
  | edge {g : Graph} (built : Built g) {source target : Nat} (branch : Option Branch)
      (starts : source < g.nodes.size) (ends : target < g.nodes.size) :
      Built (g.addEdge source target branch)

variable {g : Graph}

theorem Built.closed (built : g.Built) : g.Closed := by
  induction built with
  | empty => exact closed_empty
  | node _ label kind ih => exact ih.addNode label kind
  | edge _ branch starts ends ih =>
    intro e member
    rw [nodes_addEdge]
    rcases mem_addEdge.mp member with old | rfl
    · exact ih e old
    · exact ⟨starts, ends⟩

/-- No label that is stored has a double quote. -/
theorem Built.unquoted (built : g.Built) : ∀ node ∈ g.nodes, '"' ∉ node.label.toList := by
  induction built with
  | empty => nofun
  | node _ label kind ih =>
    intro node member
    rcases Array.mem_push.mp member with old | rfl
    · exact ih node old
    · exact quote_not_mem_escapeLabel label
  | edge _ branch _ _ ih =>
    intro node member
    rw [nodes_addEdge] at member
    exact ih node member

end Graph

end Flowchart
