import Flowchart.Proofs.Statement.Slots
import Flowchart.Proofs.Walk.Plan
import Mathlib.Control.Monad.Basic

/-! What a successful walk adds to a graph: the nodes and edges that the table of statements gives
for its tree, each of them new. -/
namespace Flowchart

theorem Graph.edges_after {g : Graph} {steps : List Walk.Step}
    (distinct : (steps.filterMap Walk.Step.edge?).Nodup)
    (fresh : ∀ e ∈ steps.filterMap Walk.Step.edge?, e ∉ g.edges) :
    (g.after steps).edges.toList = g.edges.toList ++ steps.filterMap Walk.Step.edge? := by
  induction steps generalizing g with
  | nil => simp
  | cons step rest ih =>
    rw [Graph.after_cons]
    cases step with
    | descend level | read span | node node => exact ih distinct fresh
    | edge e =>
      have listed : (Walk.Step.edge e :: rest).filterMap Walk.Step.edge? =
        e :: rest.filterMap Walk.Step.edge? := rfl
      rw [listed] at distinct fresh ⊢
      obtain ⟨absent, distinct⟩ := List.nodup_cons.mp distinct
      have pushed : (Walk.Step.apply g (.edge e)).edges = g.edges.push e :=
        Graph.edges_addEdge_of_fresh (fresh e List.mem_cons_self)
      rw [ih distinct, pushed]
      · simp
      · intro later member
        rw [pushed, Array.mem_push]
        rintro (old | rfl)
        · exact fresh later (List.mem_cons_of_mem e member) old
        · exact absent member

theorem Graph.mem_edges_after {g : Graph} {steps : List Walk.Step} {e : Edge} :
    e ∈ (g.after steps).edges ↔ e ∈ g.edges ∨ e ∈ steps.filterMap Walk.Step.edge? := by
  induction steps generalizing g with
  | nil => simp
  | cons step rest ih =>
    rw [Graph.after_cons, ih]
    cases step with
    | descend level | read span | node node => exact Iff.rfl
    | edge added =>
      rw [Walk.Step.apply, Graph.mem_addEdge, or_assoc]
      exact or_congr Iff.rfl List.mem_cons.symm

theorem Graph.Closed.after {g : Graph} (closed : g.Closed) {steps : List Walk.Step}
    (inside : ∀ e ∈ steps.filterMap Walk.Step.edge?,
      e.source < (g.after steps).nodes.size ∧ e.target < (g.after steps).nodes.size) :
    (g.after steps).Closed := by
  intro e member
  rcases Graph.mem_edges_after.mp member with old | added
  · have ends := closed e old
    rw [Walk.size_after]
    omega
  · exact inside e added

namespace Statement

variable {n : Nat} {incoming : Option Nat} {s : Statement}

theorem arrows_nodup (before : ∀ m, incoming = some m → m < n) : (s.arrows n incoming).Nodup :=
  List.Pairwise.of_map Edge.slot (fun _ _ different same => different (congrArg Edge.slot same))
    (arrows_places n incoming before s).distinct

theorem arrows_fresh {g : Graph} (closed : g.Closed) {e : Edge}
    (member : e ∈ s.arrows g.nodes.size incoming) : e ∉ g.edges := by
  intro old
  have own := (arrows_lie g.nodes.size incoming s e member).1
  have ends := closed e old
  omega

end Statement

namespace Walk

variable {source : String} {level : Nat} {incoming : Option Nat} {s : Statement} {g g' : Graph}
  {out : Option Nat}

/-- A walk succeeds if nothing is wrong with what it reaches, and then makes all its steps. -/
theorem visit_ok_iff :
    (visit source level incoming s).outcome g = (.ok out, g') ↔
      (∀ place ∈ s.reached level, Fits source place) ∧ out = s.last g.nodes.size incoming ∧
        g' = g.after (plan source level g.nodes.size incoming s) := by
  rw [(visit_makes s rfl).ok_iff, plan_fault, List.findSome?_eq_none_iff]
  simp only [offence?_eq_none_iff]

theorem plan_size (source : String) (level n : Nat) (incoming : Option Nat) (s : Statement) :
    (g.after (plan source level n incoming s)).nodes.size = g.nodes.size + s.size := by
  rw [size_after, plan_nodes, Statement.nodes_length]

theorem visit_size (walked : (visit source level incoming s).outcome g = (.ok out, g')) :
    g'.nodes.size = g.nodes.size + s.size := by
  obtain ⟨_, _, rfl⟩ := visit_ok_iff.mp walked
  exact plan_size source level g.nodes.size incoming s

theorem visit_nodes (walked : (visit source level incoming s).outcome g = (.ok out, g')) :
    g'.nodes.toList = g.nodes.toList ++ s.nodes source := by
  obtain ⟨_, _, rfl⟩ := visit_ok_iff.mp walked
  rw [nodes_after, plan_nodes]

theorem mem_visit (walked : (visit source level incoming s).outcome g = (.ok out, g')) {e : Edge} :
    e ∈ g'.edges ↔ e ∈ g.edges ∨ e ∈ s.arrows g.nodes.size incoming := by
  obtain ⟨_, _, rfl⟩ := visit_ok_iff.mp walked
  rw [Graph.mem_edges_after, plan_edges]

theorem plan_adds (closed : g.Closed) (known : g.Knows incoming) :
    (g.after (plan source level g.nodes.size incoming s)).edges.toList =
      g.edges.toList ++ s.arrows g.nodes.size incoming := by
  rw [Graph.edges_after, plan_edges]
  · rw [plan_edges]
    exact Statement.arrows_nodup known
  · intro e member
    rw [plan_edges] at member
    exact Statement.arrows_fresh closed member

theorem closed_visit (closed : g.Closed) (known : g.Knows incoming)
    (walked : (visit source level incoming s).outcome g = (.ok out, g')) :
    g'.Closed ∧ g'.Knows out := by
  obtain ⟨_, rfl, rfl⟩ := visit_ok_iff.mp walked
  constructor
  · apply closed.after
    intro e added
    rw [plan_edges] at added
    rw [plan_size]
    obtain ⟨target, ⟨given, _⟩ | own⟩ := Statement.arrows_lie g.nodes.size incoming s e added
    · have before := known _ given
      omega
    · omega
  · intro m handed
    rw [plan_size]
    exact Statement.last_before known m handed

/-- A successful walk adds the nodes of the table in order, each with the label that the script
gives it, then has exactly the edges of the table added to those it had, none of them twice, and
answers the node of the table. -/
theorem visit_reads_table (closed : g.Closed) (known : g.Knows incoming)
    (walked : (visit source level incoming s).outcome g = (.ok out, g')) :
    g'.nodes.toList = g.nodes.toList ++ s.nodes source ∧
      (∀ t ∈ s.preorder, ∀ span ∈ t.labelSpans, (span.slice? source).isSome) ∧
      g'.edges.toList = g.edges.toList ++ s.arrows g.nodes.size incoming ∧
      (s.arrows g.nodes.size incoming).Nodup ∧
      (∀ e ∈ s.arrows g.nodes.size incoming, e ∉ g.edges) ∧
      out = s.last g.nodes.size incoming := by
  have nodes := visit_nodes walked
  obtain ⟨fits, rfl, rfl⟩ := visit_ok_iff.mp walked
  refine ⟨nodes, ?_, plan_adds closed known, Statement.arrows_nodup known,
    fun e member => Statement.arrows_fresh closed member, rfl⟩
  intro t member
  rw [← Statement.reached_snd level s] at member
  obtain ⟨place, reached, rfl⟩ := List.mem_map.mp member
  exact (fits place reached).2

/-- The tree of `if (x) {} else while (y) z`. -/
def choice : Statement :=
  .conditional ⟨0, 26⟩ ⟨4, 5⟩ (.block ⟨7, 9⟩ [])
    (some (.loop ⟨15, 26⟩ ⟨22, 23⟩ (.expression ⟨25, 26⟩)))

/-- Its chart behind one more node. -/
def choiceChart : Graph :=
  ⟨#[⟨"a", .exit⟩, ⟨"if (x)", .condition⟩, ⟨"while (y)", .loop⟩, ⟨"z", .expression⟩],
    #[⟨0, 1, none⟩, ⟨1, 1, some .whenTrue⟩, ⟨1, 2, none⟩, ⟨2, 3, none⟩, ⟨3, 2, none⟩,
      ⟨1, 2, some .whenFalse⟩]⟩

theorem choice_reads_table :
    (Graph.empty.addNode "a" .exit).Closed ∧ (Graph.empty.addNode "a" .exit).Knows (some 0) ∧
      (visit "if (x) {} else while (y) z" 0 (some 0) choice).outcome
        (Graph.empty.addNode "a" .exit) = (.ok (some 1), choiceChart) ∧
      choiceChart.nodes.toList =
        (Graph.empty.addNode "a" .exit).nodes.toList ++ choice.nodes "if (x) {} else while (y) z" ∧
      choiceChart.edges.toList = choice.arrows 1 (some 0) ∧ (choice.arrows 1 (some 0)).Nodup := by
  have closed : (Graph.empty.addNode "a" .exit).Closed := Graph.closed_empty.addNode "a" .exit
  have known : (Graph.empty.addNode "a" .exit).Knows (some 0) := by
    rintro m ⟨⟩
    exact Nat.lt_succ_self 0
  have walked : (visit "if (x) {} else while (y) z" 0 (some 0) choice).outcome
      (Graph.empty.addNode "a" .exit) = (.ok (some 1), choiceChart) := by decide +kernel
  have table := visit_reads_table closed known walked
  exact ⟨closed, known, walked, table.1, table.2.2.1, table.2.2.2.1⟩

end Walk

end Flowchart
