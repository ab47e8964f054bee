import Flowchart.Proofs.Statement.Spanning
import Flowchart.Proofs.Walk.Reading
import Mathlib.Data.List.Nodup
import Mathlib.Logic.Relation

/-! The shape of charts. Plain edges onward make a forest, in a script without gaps a tree; plain edges
back lead to loops, and tagged edges leave conditions. -/
namespace Flowchart

inductive EdgeClass
  | onward
  | back
  | answer
deriving DecidableEq

namespace Graph

def kind? (g : Graph) (n : Nat) : Option NodeKind := g.nodes[n]?.map Node.kind

/-- What makes an edge of a graph one of a class. -/
def Sorts (g : Graph) (e : Edge) : EdgeClass → Prop
  | .onward => e.IsOnward
  | .back => e.IsReturn ∧ g.kind? e.target = some .loop
  | .answer => e.branch.isSome ∧ e.source ≤ e.target ∧ g.kind? e.source = some .condition

def Leads (g : Graph) (m n : Nat) : Prop := m < n ∧ ⟨m, n, none⟩ ∈ g.edges

structure Forest (g : Graph) : Prop where
  acyclic : ∀ n, ¬ Relation.TransGen g.Leads n n
  parent : ∀ l m n, g.Leads l n → g.Leads m n → l = m

/-- Each edge is of one class, and no place has two edges of a class. -/
structure Shaped (g : Graph) : Prop where
  closed : g.Closed
  sorted : ∀ e ∈ g.edges, ∃! c, g.Sorts e c
  entered : ∀ n, g.edges.toList.countP (fun e => e.IsOnward ∧ e.target = n) ≤ 1
  returned : ∀ n, g.edges.toList.countP (fun e => e.IsReturn ∧ e.target = n) ≤ 1
  answered : ∀ n answer, g.edges.toList.countP
    (fun e => e.branch = some answer ∧ e.source = n) ≤ 1
  forest : g.Forest

/-- The edges onward make a tree with all nodes. -/
structure Spanned (g : Graph) : Prop where
  count : g.edges.toList.countP (fun e => e.IsOnward) + 1 = g.nodes.size
  reach : ∀ n < g.nodes.size, Relation.ReflTransGen g.Leads 0 n

variable {g : Graph} {e : Edge}

theorem sorts_of_fits (fits : e.Fits g.kind?) : ∃! c, g.Sorts e c := by
  unfold Edge.Fits at fits
  split at fits
  · rename_i plain
    rcases Nat.lt_or_ge e.source e.target with before | after
    · refine ⟨.onward, ⟨plain, before⟩, ?_⟩
      rintro (_ | _ | _) sorts
      · rfl
      · exact absurd before (Nat.not_lt.mpr sorts.1.2)
      · simp [plain, Sorts] at sorts
    · have loop := fits.resolve_left (Nat.not_lt.mpr after)
      refine ⟨.back, ⟨⟨plain, after⟩, loop⟩, ?_⟩
      rintro (_ | _ | _) sorts
      · exact absurd sorts.2 (Nat.not_lt.mpr after)
      · rfl
      · simp [plain, Sorts] at sorts
  · rename_i tagged
    refine ⟨.answer, ⟨by rw [tagged]; rfl, fits.2, fits.1⟩, ?_⟩
    rintro (_ | _ | _) sorts
    · cases tagged.symm.trans sorts.1
    · cases tagged.symm.trans sorts.1.1
    · rfl

theorem Leads.trans_lt {m n : Nat} (path : Relation.TransGen g.Leads m n) : m < n := by
  induction path with
  | single leads => exact leads.1
  | tail _ leads ih => exact Nat.lt_trans ih leads.1

/-- A graph has its shape if its edges fit the kinds of the nodes and take places of their own. -/
theorem Shaped.of_slots (closed : g.Closed) (fit : ∀ e ∈ g.edges, e.Fits g.kind?)
    (distinct : (g.edges.toList.map Edge.slot).Nodup) : g.Shaped := by
  have once {P : Edge → Prop} [DecidablePred P] (place : Slot)
      (takes : ∀ e, P e → e.slot = place) : g.edges.toList.countP (fun e => P e) ≤ 1 := by
    refine Nat.le_trans (List.countP_mono_left fun e _ holds => ?_) (Edge.count_slot distinct place)
    exact decide_eq_true (takes e (of_decide_eq_true holds))
  refine ⟨closed, fun e member => sorts_of_fits (fit e member), ?_, ?_, ?_, ?_, ?_⟩
  · exact fun n => once (.front n) fun e => Edge.slot_eq_front.mpr
  · exact fun n => once (.back n) fun e => Edge.slot_eq_back.mpr
  · exact fun n answer => once (.branch n answer) fun e => Edge.slot_eq_branch.mpr
  · exact fun n path => Nat.lt_irrefl n (Leads.trans_lt path)
  · intro l m n left right
    have place {m : Nat} (leads : g.Leads m n) : Edge.slot ⟨m, n, none⟩ = .front n :=
      Edge.slot_eq_front.mpr ⟨⟨rfl, leads.1⟩, rfl⟩
    have same := (place left).trans (place right).symm
    have equal := List.inj_on_of_nodup_map distinct (Array.mem_toList_iff.mpr left.2)
      (Array.mem_toList_iff.mpr right.2) same
    exact congrArg Edge.source equal

end Graph

namespace Walk

variable {source : String} {tree : Statement} {out : Option Nat} {g : Graph}

theorem walk_empty (walked : Graph.empty.walk source tree = (.ok out, g)) :
    g.nodes.toList = tree.nodes source ∧ g.edges.toList = tree.arrows 0 none := by
  have nodes := visit_nodes walked
  obtain ⟨_, _, rfl⟩ := visit_ok_iff.mp walked
  exact ⟨nodes, plan_adds Graph.closed_empty (Graph.knows_none _)⟩

theorem kind?_eq (nodes : g.nodes.toList = tree.nodes source) :
    g.kind? = fun n => tree.kinds[n]? := by
  funext n
  rw [Graph.kind?, ← Array.getElem?_toList, nodes, ← Statement.nodes_kind source, List.getElem?_map]

/-- The shape of the chart of a script. -/
theorem chart_shape (walked : Graph.empty.walk source tree = (.ok out, g)) :
    g.Shaped ∧ (tree.Gapless → 0 < g.nodes.size → g.Spanned) := by
  have known := Graph.empty.knows_none
  obtain ⟨nodes, edges⟩ := walk_empty walked
  have size : g.nodes.size = tree.size := by
    rw [← Array.length_toList, nodes, Statement.nodes_length]
  constructor
  · apply Graph.Shaped.of_slots
    · exact (closed_visit Graph.closed_empty known walked).1
    · intro e member
      rw [← Array.mem_toList_iff, edges] at member
      refine Statement.arrows_fit 0 none known tree ?_ e member
      rw [kind?_eq nodes]
      exact shows_list [] tree.kinds
    · rw [edges]
      exact (Statement.arrows_places 0 none known tree).distinct
  · intro gapless grown
    constructor
    · rw [edges, size]
      exact gapless.count_onward (by omega)
    · intro n
      induction n using Nat.strongRecOn with
      | ind n ih =>
        intro inside
        rcases Nat.eq_zero_or_pos n with rfl | later
        · exact .refl
        · obtain ⟨m, before, member⟩ := gapless.enter (n := 0) later (by omega)
          have leads : g.Leads m n := ⟨before, by rwa [← Array.mem_toList_iff, edges]⟩
          exact (ih m before (by omega)).tail leads

/-- The tree of `x;if (y) while (z) w`. -/
def chain : Statement :=
  .program ⟨0, 20⟩ [.expression ⟨0, 2⟩, .conditional ⟨2, 20⟩ ⟨6, 7⟩
    (.loop ⟨9, 20⟩ ⟨16, 17⟩ (.expression ⟨19, 20⟩)) none]

def chainChart : Graph :=
  ⟨#[⟨"x;", .expression⟩, ⟨"if (y)", .condition⟩, ⟨"while (z)", .loop⟩, ⟨"w", .expression⟩],
    #[⟨0, 1, none⟩, ⟨1, 2, none⟩, ⟨2, 3, none⟩, ⟨3, 2, none⟩, ⟨1, 2, some .whenTrue⟩]⟩

theorem chain_shape :
    Graph.empty.walk "x;if (y) while (z) w" chain = (.ok (some 1), chainChart) ∧ chain.Gapless ∧
      0 < chainChart.nodes.size ∧ chainChart.Shaped ∧ chainChart.Spanned := by
  have walked : Graph.empty.walk "x;if (y) while (z) w" chain = (.ok (some 1), chainChart) := by decide +kernel
  have gapless : chain.Gapless := by
    simp [Statement.Gapless, chain, Statement.preorder, Statement.preorderAll,
      Statement.IsUnsupported, Statement.IsProgram]
  have grown : 0 < chainChart.nodes.size := by decide
  obtain ⟨shaped, spanned⟩ := chart_shape walked
  exact ⟨walked, gapless, grown, shaped, spanned gapless grown⟩

end Walk

end Flowchart
