import Flowchart.Proofs.Chart.Beside
import Mathlib.Data.List.Zip

/-! Graphs that keep for each node its name and the edges that leave it. Whether an edge is new is then
asked of the edges between its own two nodes only, and the answer is the same as that of the whole list;
the names are kept as they were given, and they still tell the places of their nodes. -/
namespace Flowchart

/-- `names` holds the name that each node was given when it was added, and `leaving` the numbers of
its edges, the latest first. -/
structure Adjacency where
  graph : Graph
  names : Array String
  leaving : Array (List Nat)

namespace Adjacency

def empty : Adjacency := ⟨.empty, #[], #[]⟩

/-- Adds a node, named by the count of the nodes before it. -/
def addNode (a : Adjacency) (label : String) (kind : NodeKind) : Adjacency :=
  ⟨a.graph.addNode label kind, a.names.push (nodeId a.graph.nodes.size), a.leaving.push []⟩

/-- The nodes with the names that are kept for them. -/
def entries (a : Adjacency) : List (String × Node) := a.names.toList.zip a.graph.nodes.toList

/-- The branches of the edges that connect two nodes. -/
def connecting (a : Adjacency) (source target : Nat) : List (Option Branch) :=
  (a.leaving[source]?.getD []).filterMap fun k =>
    a.graph.edges[k]?.bind fun e => if e.target = target then some e.branch else none

def addEdge (a : Adjacency) (source target : Nat) (branch : Option Branch) : Adjacency :=
  if branch ∈ a.connecting source target then a
  else ⟨{ a.graph with edges := a.graph.edges.push ⟨source, target, branch⟩ }, a.names,
    a.leaving.modify source (a.graph.edges.size :: ·)⟩

/-- The names tell the places of their nodes, and each node has the numbers of the edges that leave it
and no others. -/
structure Linked (a : Adjacency) : Prop where
  names : a.names.toList = (List.range a.graph.nodes.size).map nodeId
  size : a.leaving.size = a.graph.nodes.size
  lists : ∀ n < a.graph.nodes.size, ∀ k, k ∈ a.leaving[n]?.getD [] ↔
    ∃ e, a.graph.edges[k]? = some e ∧ e.source = n

variable {a : Adjacency} {source target : Nat} {branch : Option Branch}

theorem linked_empty : empty.Linked := ⟨rfl, rfl, nofun⟩

/-- So the names that are kept are those that the nodes have by their places. -/
theorem Linked.entries_eq (linked : a.Linked) : a.entries = a.graph.named 0 := by
  have numbered : a.graph.nodes.toList.zipIdx =
      ((List.range a.graph.nodes.size).zip a.graph.nodes.toList).map Prod.swap := by
    rw [List.zip_swap, List.zipIdx_eq_zip_range', ← List.range_eq_range', Array.length_toList]
  rw [entries, linked.names, List.zip_map_left, Graph.named, numbered, List.map_map]
  rfl

theorem Linked.addNode (linked : a.Linked) (closed : a.graph.Closed) (label : String)
    (kind : NodeKind) : (a.addNode label kind).Linked := by
  have size := linked.size
  constructor
  · simp [Adjacency.addNode, Graph.addNode, linked.names, List.range_succ]
  · simp [Adjacency.addNode, Graph.addNode, size]
  · intro n inside k
    simp only [Adjacency.addNode, Graph.addNode, Array.size_push] at inside ⊢
    rcases Nat.lt_succ_iff_lt_or_eq.mp inside with old | rfl
    · rw [Array.getElem?_push_lt (by omega), ← Array.getElem?_eq_getElem]
      exact linked.lists n old k
    · rw [← size, Array.getElem?_push_size]
      constructor
      · intro none
        cases none
      · -- No edge leaves a node before it is there.
        rintro ⟨e, stored, leaves⟩
        have ends := closed e (Array.mem_of_getElem? stored)
        omega

theorem mem_connecting (linked : a.Linked) (starts : source < a.graph.nodes.size) :
    branch ∈ a.connecting source target ↔ ⟨source, target, branch⟩ ∈ a.graph.edges := by
  rw [connecting, List.mem_filterMap]
  constructor
  · rintro ⟨k, listed, found⟩
    obtain ⟨e, stored, leaves⟩ := (linked.lists source starts k).mp listed
    rw [stored, Option.bind_some] at found
    split at found
    · rename_i ends
      cases found
      have same : e = ⟨source, target, e.branch⟩ := by rw [← leaves, ← ends]
      exact same ▸ Array.mem_of_getElem? stored
    · cases found
  · intro member
    obtain ⟨k, stored⟩ := Array.mem_iff_getElem?.mp member
    refine ⟨k, (linked.lists source starts k).mpr ⟨_, stored, rfl⟩, ?_⟩
    rw [stored, Option.bind_some, if_pos rfl]

/-- Asking the connecting edges comes to the same as asking all. -/
theorem graph_addEdge (linked : a.Linked) (starts : source < a.graph.nodes.size) :
    (a.addEdge source target branch).graph = a.graph.addEdge source target branch := by
  have asked : branch ∈ a.connecting source target ↔ ⟨source, target, branch⟩ ∈ a.graph.edges :=
    mem_connecting linked starts
  by_cases known : branch ∈ a.connecting source target
  · simp only [addEdge, Graph.addEdge, if_pos known, if_pos (asked.mp known)]
  · simp only [addEdge, Graph.addEdge, if_neg known, if_neg (mt asked.mpr known)]

theorem Linked.addEdge (linked : a.Linked) : (a.addEdge source target branch).Linked := by
  unfold Adjacency.addEdge
  split
  · exact linked
  · constructor
    · exact linked.names
    · rw [Array.size_modify]
      exact linked.size
    · intro n inside k
      have old := linked.lists n inside k
      have here : n < a.leaving.size := linked.size ▸ inside
      have beyond : a.graph.edges[a.graph.edges.size]? = none := Array.getElem?_eq_none (Nat.le_refl _)
      simp only [Array.getElem?_push]
      rw [Array.getElem?_modify]
      by_cases latest : k = a.graph.edges.size
      · subst latest
        rw [beyond] at old
        by_cases own : source = n
        · simp [own, here]
        · simpa [own] using old
      · by_cases own : source = n
        · simpa [own, here, latest] using old
        · simpa [own, latest] using old

end Adjacency

end Flowchart
