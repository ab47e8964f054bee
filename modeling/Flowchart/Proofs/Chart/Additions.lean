import Flowchart.Proofs.Chart.Adjacency
import Flowchart.Proofs.Chart.Beside
import Flowchart.Proofs.Chart.Built
import Mathlib.Data.Finset.Card

/-! Graphs over a run of additions. The nodes are those that were added, and the edges are those that
were added without the repetitions, all of them in the order in which they first came. -/
namespace Flowchart

inductive Addition
  | node (text : String) (kind : NodeKind)
  | edge (edge : Edge)

namespace Addition

def text? : Addition → Option (String × NodeKind)
  | node text kind => some (text, kind)
  | edge _ => none

def edge? : Addition → Option Edge
  | edge e => some e
  | node .. => none

/-- Edges join nodes that are there when they are added, if `n` nodes are there before. -/
def Joins (n : Nat) : List Addition → Prop
  | [] => True
  | node .. :: rest => Joins (n + 1) rest
  | edge e :: rest => (e.source < n ∧ e.target < n) ∧ Joins n rest

end Addition

/-- The texts and kinds of the added nodes. -/
def texts (additions : List Addition) : List (String × NodeKind) := additions.filterMap Addition.text?

/-- The added edges, with the repetitions. -/
def triples (additions : List Addition) : List Edge := additions.filterMap Addition.edge?

theorem escapeLabel_eq (text : String) : escapeLabel text =
    String.ofList (text.toList.map fun c => if c = '"' then '\'' else c) := by
  rw [← String.toList_inj]
  simp [escapeLabel]

namespace Graph

def add (g : Graph) : Addition → Graph
  | .node text kind => g.addNode text kind
  | .edge e => g.addEdge e.source e.target e.branch

def addAll (g : Graph) (additions : List Addition) : Graph := additions.foldl add g

theorem addAll_cons (g : Graph) (addition : Addition) (rest : List Addition) :
    g.addAll (addition :: rest) = (g.add addition).addAll rest := rfl

theorem addAll_append (g : Graph) (before after : List Addition) :
    g.addAll (before ++ after) = (g.addAll before).addAll after := List.foldl_append

theorem addEdge_of_mem {g : Graph} {e : Edge} (known : e ∈ g.edges) :
    g.addEdge e.source e.target e.branch = g := by
  simp only [addEdge, if_pos known]

end Graph

section KeepFirst

variable {α : Type} [DecidableEq α]

/-- A value at the end is dropped if it came before. -/
theorem eraseDups_concat (xs : List α) (x : α) :
    (xs ++ [x]).eraseDups = if x ∈ xs then xs.eraseDups else xs.eraseDups ++ [x] := by
  rw [List.eraseDups_append]
  by_cases known : x ∈ xs
  · simp [known, List.removeAll]
  · have single : [x].eraseDups = [x] := by rw [List.eraseDups_cons]; rfl
    simp [known, List.removeAll, single]

theorem nodup_eraseDups (xs : List α) : xs.eraseDups.Nodup := by
  induction xs using List.reverseRecOn with
  | nil => exact List.nodup_nil
  | append_singleton xs x ih =>
    rw [eraseDups_concat]
    split
    · exact ih
    · rename_i fresh
      rw [List.nodup_append]
      refine ⟨ih, List.nodup_singleton x, ?_⟩
      rintro y earlier _ last rfl
      cases List.mem_singleton.mp last
      exact fresh (List.mem_eraseDups.mp earlier)

theorem length_eraseDups (xs : List α) : xs.eraseDups.length = xs.toFinset.card := by
  have same : xs.eraseDups.toFinset = xs.toFinset := by
    ext x
    rw [List.mem_toFinset, List.mem_toFinset, List.mem_eraseDups]
  rw [← List.toFinset_card_of_nodup (nodup_eraseDups xs), same]

end KeepFirst

namespace Graph

variable {g : Graph} {additions : List Addition}

theorem nodes_addAll (g : Graph) (additions : List Addition) :
    (g.addAll additions).nodes.toList =
      g.nodes.toList ++ (texts additions).map fun (text, kind) => ⟨escapeLabel text, kind⟩ := by
  induction additions generalizing g with
  | nil => simp [addAll, texts]
  | cons addition rest ih =>
    rw [addAll_cons, ih (g.add addition)]
    cases addition with
    | node text kind => simp [add, addNode, texts, Addition.text?]
    | edge e => simp [add, nodes_addEdge, texts, Addition.text?, List.filterMap_cons]

/-- Only the first of equal edges is kept, whatever comes between them. -/
theorem edges_addAll {xs : List Edge} (kept : g.edges.toList = xs.eraseDups) :
    (g.addAll additions).edges.toList = (xs ++ triples additions).eraseDups := by
  induction additions generalizing g xs with
  | nil => simpa [addAll, triples] using kept
  | cons addition rest ih =>
    rw [addAll_cons]
    cases addition with
    | node text kind => exact ih kept
    | edge e =>
      have added : (g.add (.edge e)).edges.toList = (xs ++ [e]).eraseDups := by
        have member : e ∈ g.edges ↔ e ∈ xs := by
          rw [← Array.mem_toList_iff, kept, List.mem_eraseDups]
        rw [eraseDups_concat]
        by_cases known : e ∈ xs
        · rw [if_pos known, add, addEdge_of_mem (member.mpr known), kept]
        · rw [if_neg known, add, edges_addEdge_of_fresh (mt member.mp known), Array.toList_push, kept]
      rw [ih added, List.append_assoc]
      rfl

theorem edges_empty_addAll (additions : List Addition) :
    (empty.addAll additions).edges.toList = (triples additions).eraseDups := by
  have kept : (empty.addAll additions).edges.toList = ([] ++ triples additions).eraseDups :=
    edges_addAll rfl
  rwa [List.nil_append] at kept

theorem mem_edges_addAll {e : Edge} :
    e ∈ (empty.addAll additions).edges ↔ e ∈ triples additions := by
  rw [← Array.mem_toList_iff, edges_empty_addAll, List.mem_eraseDups]

/-- An addition of an edge that was added before does nothing. -/
theorem addAll_again {before after : List Addition} {e : Edge} (earlier : e ∈ triples before) :
    empty.addAll (before ++ .edge e :: after) = empty.addAll (before ++ after) := by
  have known : (empty.addAll before).add (.edge e) = empty.addAll before :=
    addEdge_of_mem (mem_edges_addAll.mpr earlier)
  rw [addAll_append, addAll_append, addAll_cons, known]

theorem prefix_addAll (g : Graph) (additions : List Addition) :
    g.nodes.toList <+: (g.addAll additions).nodes.toList := by
  rw [nodes_addAll]
  exact List.prefix_append _ _

end Graph

namespace Adjacency

def add (a : Adjacency) : Addition → Adjacency
  | .node text kind => a.addNode text kind
  | .edge e => a.addEdge e.source e.target e.branch

def addAll (a : Adjacency) (additions : List Addition) : Adjacency := additions.foldl add a

/-- A run of additions keeps the names and the lists right, and gives the graph that is asked in whole. -/
theorem addAll_keeps {a : Adjacency} (linked : a.Linked) (built : a.graph.Built)
    {additions : List Addition} (joins : Addition.Joins a.graph.nodes.size additions) :
    (a.addAll additions).Linked ∧ (a.addAll additions).graph = a.graph.addAll additions := by
  induction additions generalizing a with
  | nil => exact ⟨linked, rfl⟩
  | cons addition rest ih =>
    rw [addAll, List.foldl_cons, ← addAll, Graph.addAll_cons]
    cases addition with
    | node text kind =>
      refine ih (linked.addNode built.closed text kind) (.node built text kind) ?_
      rw [add, addNode, Graph.addNode, Array.size_push]
      exact joins
    | edge e =>
      obtain ⟨⟨starts, ends⟩, joins⟩ := joins
      have same : (a.add (.edge e)).graph = a.graph.add (.edge e) := graph_addEdge linked starts
      rw [← same]
      refine ih linked.addEdge ?_ ?_
      · rw [same]
        exact .edge built e.branch starts ends
      · rw [same, Graph.add, Graph.nodes_addEdge]
        exact joins

end Adjacency

namespace Graph

/-- A graph that is built from nothing holds the added nodes with their names and the added edges
without the repetitions. What was there earlier stays, and to ask only the edges between two nodes and
to keep the names that were given comes to the same. -/
theorem additions_kept {additions : List Addition} (joins : Addition.Joins 0 additions) :
    ((empty.addAll additions).named 0 = (texts additions).zipIdx.map fun ((text, kind), n) =>
      ("node" ++ toString n,
        ⟨String.ofList (text.toList.map fun c => if c = '"' then '\'' else c), kind⟩)) ∧
    (empty.addAll additions).edges.toList = (triples additions).eraseDups ∧
    (empty.addAll additions).edges.size = (triples additions).toFinset.card ∧
    (∀ e ∈ triples additions, (empty.addAll additions).edges.toList.count e = 1) ∧
    (∀ before after, additions = before ++ after →
      (empty.addAll before).nodes.toList <+: (empty.addAll additions).nodes.toList ∧
      ∀ e ∈ triples before, empty.addAll (before ++ .edge e :: after) = empty.addAll additions) ∧
    (Adjacency.empty.addAll additions).graph = empty.addAll additions ∧
    (Adjacency.empty.addAll additions).entries = (empty.addAll additions).named 0 := by
  have kept := edges_empty_addAll additions
  obtain ⟨linked, adjacent⟩ := Adjacency.addAll_keeps Adjacency.linked_empty .empty joins
  refine ⟨?_, kept, ?_, ?_, ?_, adjacent, adjacent ▸ linked.entries_eq⟩
  · rw [named, nodes_addAll]
    simp only [empty, List.nil_append, List.zipIdx_map, List.map_map]
    refine List.map_congr_left fun entry _ => ?_
    obtain ⟨⟨text, kind⟩, n⟩ := entry
    exact congrArg (fun label => ("node" ++ toString n, (⟨label, kind⟩ : Node)))
      (escapeLabel_eq text)
  · rw [← Array.length_toList, kept, length_eraseDups]
  · intro e member
    rw [kept]
    exact List.count_eq_one_of_mem (nodup_eraseDups _) (List.mem_eraseDups.mpr member)
  · rintro before after rfl
    constructor
    · rw [addAll_append]
      exact prefix_addAll _ after
    · exact fun e earlier => addAll_again earlier

/-- Two nodes with edges both ways, a loop and a tagged edge, some of them added again. -/
def repeated : List Addition :=
  [.node "say \"x\"" .expression, .node "if (y)" .condition, .edge ⟨0, 1, none⟩, .edge ⟨1, 0, none⟩,
    .edge ⟨0, 1, none⟩, .edge ⟨1, 1, none⟩, .node "z" .exit, .edge ⟨1, 2, some .whenTrue⟩,
    .edge ⟨1, 1, none⟩, .edge ⟨1, 2, none⟩, .edge ⟨1, 2, some .whenTrue⟩]

theorem repeated_kept :
    Addition.Joins 0 repeated ∧
      (empty.addAll repeated).named 0 = [("node0", ⟨"say 'x'", .expression⟩),
        ("node1", ⟨"if (y)", .condition⟩), ("node2", ⟨"z", .exit⟩)] ∧
      (empty.addAll repeated).edges.toList = [⟨0, 1, none⟩, ⟨1, 0, none⟩, ⟨1, 1, none⟩,
        ⟨1, 2, some .whenTrue⟩, ⟨1, 2, none⟩] ∧
      (triples repeated).toFinset.card = 5 ∧
      (Adjacency.empty.addAll repeated).graph = empty.addAll repeated ∧
      (Adjacency.empty.addAll repeated).entries = (empty.addAll repeated).named 0 := by
  have joins : Addition.Joins 0 repeated := by simp [repeated, Addition.Joins]
  obtain ⟨_, edges, count, _, _, adjacent, entries⟩ := additions_kept joins
  have named : (empty.addAll repeated).named 0 = [("node0", ⟨"say 'x'", .expression⟩),
      ("node1", ⟨"if (y)", .condition⟩), ("node2", ⟨"z", .exit⟩)] := by decide +kernel
  have first : (triples repeated).eraseDups = [⟨0, 1, none⟩, ⟨1, 0, none⟩, ⟨1, 1, none⟩,
      ⟨1, 2, some .whenTrue⟩, ⟨1, 2, none⟩] := by decide +kernel
  have size : (empty.addAll repeated).edges.size = 5 := by
    rw [← Array.length_toList, edges, first]
    rfl
  exact ⟨joins, named, edges.trans first, count.symm.trans size, adjacent, entries⟩

end Graph

end Flowchart
