import Flowchart.Proofs.Chart.Beside
import Flowchart.Proofs.Walk.Grounded
import Mathlib.Control.Monad.Basic

/-! Walks into a graph that is not empty, one after the other, some of which may fail. Each adds what
it adds to an empty graph, numbered on behind what is there. -/
namespace Flowchart

theorem Edge.into_shift (k n : Nat) (incoming : Option Nat) :
    Edge.into (incoming.map (· + k)) (n + k) = (Edge.into incoming n).map (Edge.shift k) := by
  cases incoming <;> rfl

theorem Edge.toBranch_shift (k n : Nat) (branch : Branch) (last : Option Nat) :
    Edge.toBranch (n + k) branch (last.map (· + k)) =
      (Edge.toBranch n branch last).map (Edge.shift k) := by
  cases last <;> rfl

namespace Statement

mutual

theorem last_shift (k n : Nat) (incoming : Option Nat) :
    ∀ s : Statement, last (n + k) (incoming.map (· + k)) s = (last n incoming s).map (· + k)
  | program _ body => lastAll_shift k n none body
  | block _ body => lastAll_shift k n incoming body
  | function .. | declaration .. | conditional .. | loop .. | expression _ | exit ..
  | unsupported .. => rfl

theorem lastAll_shift (k n : Nat) (incoming : Option Nat) :
    ∀ ss : List Statement,
      lastAll (n + k) (incoming.map (· + k)) ss = (lastAll n incoming ss).map (· + k)
  | [] => rfl
  | s :: rest => by
    rw [lastAll, lastAll, last_shift k n incoming s, Nat.add_right_comm,
      lastAll_shift k (n + s.size) (last n incoming s) rest]

end

end Statement

namespace Walk

variable {source : String} {level : Nat} {incoming : Option Nat} {s : Statement} {g : Graph}

namespace Step

def shift (k : Nat) : Step → Step
  | edge e => edge (e.shift k)
  | descend level => descend level
  | read span => read span
  | node n => node n

theorem fault?_shift (source : String) (k : Nat) (step : Step) :
    (step.shift k).fault? source = step.fault? source := by
  cases step <;> rfl

end Step

theorem shift_edges (k : Nat) (es : List Edge) :
    (es.map (Edge.shift k)).map .edge = (es.map .edge).map (Step.shift k) := by
  simp only [List.map_map]
  rfl

theorem entering_shift (source : String) (level k : Nat) (s : Statement) :
    (entering source level s).map (Step.shift k) = entering source level s := by
  simp only [entering, List.map_cons, List.map_append, List.map_map]
  rfl

mutual

/-- A plan does not depend on the number of its first node, but for the numbers in its edges. -/
theorem plan_shift (source : String) (level k n : Nat) (incoming : Option Nat) :
    ∀ s : Statement, plan source level (n + k) (incoming.map (· + k)) s =
      (plan source level n incoming s).map (Step.shift k)
  | .program _ body => by
    simp only [plan, List.map_append, entering_shift, ← planAll_shift, Option.map_none]
  | .block _ body => by
    simp only [plan, List.map_append, entering_shift, ← planAll_shift]
  | .function _ _ body => by
    simp only [plan, List.map_append, entering_shift, ← plan_shift _ _ _ _ _ body, ← shift_edges,
      ← Edge.into_shift, Option.map_some, Nat.add_right_comm]
  | .conditional _ _ consequent none => by
    simp only [plan, List.map_append, entering_shift, ← plan_shift _ _ _ _ _ consequent,
      ← shift_edges, ← Edge.into_shift, ← Edge.toBranch_shift, ← Statement.last_shift,
      Option.map_some, Nat.add_right_comm]
  | .conditional _ _ consequent (some alternate) => by
    simp only [plan, List.map_append, entering_shift, ← plan_shift _ _ _ _ _ consequent,
      ← plan_shift _ _ _ _ _ alternate, ← shift_edges, ← Edge.into_shift, ← Edge.toBranch_shift,
      ← Statement.last_shift, Option.map_some, Nat.add_right_comm]
  | .loop _ _ body => by
    simp only [plan, List.map_append, entering_shift, ← plan_shift _ _ _ _ _ body, ← shift_edges,
      ← Edge.into_shift, ← Statement.last_shift, Option.map_some, Nat.add_right_comm]
  | .declaration .. | .expression _ | .exit .. => by
    simp only [plan, List.map_append, entering_shift, ← shift_edges, ← Edge.into_shift]
  | .unsupported .. => (entering_shift ..).symm

theorem planAll_shift (source : String) (level k n : Nat) (incoming : Option Nat) :
    ∀ ss : List Statement, planAll source level (n + k) (incoming.map (· + k)) ss =
      (planAll source level n incoming ss).map (Step.shift k)
  | [] => rfl
  | s :: rest => by
    simp only [planAll, List.map_append, ← plan_shift _ _ _ _ _ s, ← planAll_shift _ _ _ _ _ rest,
      ← Statement.last_shift, Nat.add_right_comm]

end

theorem performed_shift (source : String) (k : Nat) (steps : List Step) :
    performed source (steps.map (Step.shift k)) = (performed source steps).map (Step.shift k) := by
  simp only [performed, List.takeWhile_map, Function.comp_def, Step.fault?_shift]

theorem answer_shift (source : String) (k : Nat) (steps : List Step) (out : Option Nat) :
    answer source (steps.map (Step.shift k)) (out.map (· + k)) =
      (answer source steps out).map (Option.map (· + k)) := by
  simp only [answer, List.findSome?_map, Function.comp_def, Step.fault?_shift]
  cases steps.findSome? (Step.fault? source) <;> rfl

theorem after_shift (closed : g.Closed) (h : Graph) (steps : List Step) :
    (g.beside h).after (steps.map (Step.shift g.nodes.size)) = g.beside (h.after steps) := by
  induction steps generalizing h with
  | nil => rfl
  | cons step rest ih =>
    have first : (step.shift g.nodes.size).apply (g.beside h) = g.beside (step.apply h) := by
      cases step with
      | edge e => exact Graph.addEdge_beside closed e.source e.target e.branch
      | node n => simp only [Step.shift, Step.apply, Graph.beside, Array.append_push]
      | descend level | read span => rfl
    rw [List.map_cons, Graph.after_cons, first, ih, Graph.after_cons]

/-- Two walks with graphs of which one stands behind other nodes go the same way. -/
theorem visit_beside (closed : g.Closed) (h : Graph) (source : String) (level : Nat)
    (incoming : Option Nat) (s : Statement) :
    (visit source level (incoming.map (· + g.nodes.size)) s).outcome (g.beside h) =
      (((visit source level incoming s).outcome h).1.map (Option.map (· + g.nodes.size)),
        g.beside ((visit source level incoming s).outcome h).2) := by
  have alone : Makes source (visit source level incoming s) h _ _ := visit_makes s rfl
  have size : (g.beside h).nodes.size = h.nodes.size + g.nodes.size := by
    rw [Graph.size_beside, Nat.add_comm]
  have shared : Makes source (visit source level (incoming.map (· + g.nodes.size)) s)
      (g.beside h) _ _ := visit_makes s size
  rw [plan_shift, Statement.last_shift] at shared
  rw [alone, shared, answer_shift, performed_shift, after_shift closed]

end Walk

namespace Graph

variable {g : Graph} {e : Edge}

/-- Walks scripts one after the other into a graph, also after one that fails. -/
def walkAll (g : Graph) :
    List (String × Statement) → List (Except WalkFault (Option Nat)) × Graph
  | [] => ([], g)
  | (source, tree) :: rest =>
    let (result, g) := g.walk source tree
    let (results, g) := g.walkAll rest
    (result :: results, g)

/-- Puts charts beside a graph one after the other, with the node that each answers. -/
def besideAll (g : Graph) :
    List (Except WalkFault (Option Nat) × Graph) → List (Except WalkFault (Option Nat)) × Graph
  | [] => ([], g)
  | (result, chart) :: rest =>
    let (results, whole) := (g.beside chart).besideAll rest
    (result.map (Option.map (· + g.nodes.size)) :: results, whole)

theorem walk_beside (closed : g.Closed) (source : String) (tree : Statement) :
    g.walk source tree = ((empty.walk source tree).1.map (Option.map (· + g.nodes.size)),
      g.beside (empty.walk source tree).2) := by
  have shared := Walk.visit_beside closed empty source 0 none tree
  rwa [beside_empty] at shared

theorem closed_walk (closed : g.Closed) (source : String) (tree : Statement) :
    (g.walk source tree).2.Closed := Walk.closed_outcome closed g.knows_none

theorem walkAll_beside (closed : g.Closed) (scripts : List (String × Statement)) :
    g.walkAll scripts = g.besideAll (scripts.map fun (source, tree) => empty.walk source tree) := by
  induction scripts generalizing g with
  | nil => rfl
  | cons script rest ih =>
    have later := closed_walk closed script.1 script.2
    rw [walk_beside closed] at later
    simp only [walkAll, List.map_cons, besideAll, walk_beside closed, ih later]

theorem walkAll_append (g : Graph) (scripts more : List (String × Statement)) :
    (g.walkAll (scripts ++ more)).2 = ((g.walkAll scripts).2.walkAll more).2 := by
  induction scripts generalizing g with
  | nil => rfl
  | cons script rest ih => exact ih (g.walk script.1 script.2).2

theorem closed_walkAll (closed : g.Closed) (scripts : List (String × Statement)) :
    (g.walkAll scripts).2.Closed := by
  induction scripts generalizing g with
  | nil => exact closed
  | cons script rest ih => exact ih (closed_walk closed script.1 script.2)

/-- Later walks add edges between their own nodes only. -/
theorem mem_walkAll (closed : g.Closed) (scripts : List (String × Statement))
    (member : e ∈ (g.walkAll scripts).2.edges) :
    e ∈ g.edges ∨ (g.nodes.size ≤ e.source ∧ g.nodes.size ≤ e.target) := by
  induction scripts generalizing g with
  | nil => exact .inl member
  | cons script rest ih =>
    have walked := walk_beside closed script.1 script.2
    have later := closed_walk closed script.1 script.2
    rcases ih later member with known | behind
    · rw [walked] at known
      rcases mem_beside.mp known with old | ⟨e, _, rfl⟩
      · exact .inl old
      · exact .inr ⟨Nat.le_add_left .., Nat.le_add_left ..⟩
    · rw [walked, size_beside] at behind
      exact .inr (by omega)

/-- The nodes that the walk of one script has added to those of the scripts before it. -/
def OfScript (g : Graph) (before : List (String × Statement)) (script : String × Statement)
    (n : Nat) : Prop :=
  (g.walkAll before).2.nodes.size ≤ n ∧ n < (g.walkAll (before ++ [script])).2.nodes.size

theorem walkAll_apart (closed : g.Closed) (before after : List (String × Statement))
    (script : String × Statement) (member : e ∈ (g.walkAll (before ++ script :: after)).2.edges) :
    g.OfScript before script e.source ↔ g.OfScript before script e.target := by
  have first := closed_walkAll closed before
  have chart := closed_walk closed_empty script.1 script.2
  have ended : (g.walkAll (before ++ [script])).2 =
      (g.walkAll before).2.beside (empty.walk script.1 script.2).2 := by
    rw [walkAll_append]
    exact congrArg Prod.snd (walk_beside first script.1 script.2)
  have whole : before ++ script :: after = (before ++ [script]) ++ after := by simp
  rw [whole, walkAll_append] at member
  unfold OfScript
  rcases mem_walkAll (closed_walkAll closed _) after member with known | behind
  · rw [ended, size_beside]
    rw [ended] at known
    rcases mem_beside.mp known with old | ⟨e, own, rfl⟩
    · have ends := first e old
      omega
    · have ends := chart e own
      simp only [Edge.shift]
      omega
  · omega

/-- Walks into one graph do not meet. Each leaves what is there, and behind it adds what it adds to
an empty graph, with all node numbers raised by the number of nodes before, whether it fails or not;
so no edge joins the nodes of two scripts. -/
theorem shared_graph (closed : g.Closed) :
    (∀ source tree, g.walk source tree =
        ((empty.walk source tree).1.map (Option.map (· + g.nodes.size)),
          g.beside (empty.walk source tree).2) ∧
      (g.walk source tree).2.named 0 =
        g.named 0 ++ (empty.walk source tree).2.named g.nodes.size) ∧
    ∀ scripts, g.walkAll scripts =
        g.besideAll (scripts.map fun (source, tree) => empty.walk source tree) ∧
      ∀ before script after, scripts = before ++ script :: after →
        ∀ e ∈ (g.walkAll scripts).2.edges,
          g.OfScript before script e.source ↔ g.OfScript before script e.target := by
  constructor
  · intro source tree
    have walked := walk_beside closed source tree
    refine ⟨walked, ?_⟩
    rw [walked, named_beside, Nat.zero_add]
  · intro scripts
    refine ⟨walkAll_beside closed scripts, ?_⟩
    rintro before script after rfl e member
    exact walkAll_apart closed before after script member

/-- A chart of one statement, and three scripts to walk behind it; the second ends outside its text. -/
def begun : Graph := ⟨#[⟨"a", .exit⟩], #[]⟩

def loopScript : String × Statement :=
  ("while (x) y", .loop ⟨0, 11⟩ ⟨7, 8⟩ (.expression ⟨10, 11⟩))

def brokenScript : String × Statement :=
  ("if (u) v", .conditional ⟨0, 8⟩ ⟨4, 5⟩
    (.block ⟨7, 9⟩ [.expression ⟨7, 8⟩, .expression ⟨8, 9⟩]) none)

def plainScript : String × Statement :=
  ("z;w", .program ⟨0, 3⟩ [.expression ⟨0, 2⟩, .expression ⟨2, 3⟩])

def sharedChart : Graph :=
  ⟨#[⟨"a", .exit⟩, ⟨"while (x)", .loop⟩, ⟨"y", .expression⟩, ⟨"if (u)", .condition⟩,
      ⟨"v", .expression⟩, ⟨"z;", .expression⟩, ⟨"w", .expression⟩],
    #[⟨1, 2, none⟩, ⟨2, 1, none⟩, ⟨3, 4, none⟩, ⟨5, 6, none⟩]⟩

theorem scripts_shared :
    begun.Closed ∧
      begun.walkAll [loopScript, brokenScript, plainScript] =
        ([.ok (some 1), .error (.outside ⟨8, 9⟩ 8), .ok (some 6)], sharedChart) ∧
      begun.besideAll ([loopScript, brokenScript, plainScript].map
          fun (source, tree) => empty.walk source tree) =
        ([.ok (some 1), .error (.outside ⟨8, 9⟩ 8), .ok (some 6)], sharedChart) ∧
      (begun.OfScript [loopScript] brokenScript 3 ↔ begun.OfScript [loopScript] brokenScript 4) := by
  have closed : begun.Closed := nofun
  have walked : begun.walkAll [loopScript, brokenScript, plainScript] =
      ([.ok (some 1), .error (.outside ⟨8, 9⟩ 8), .ok (some 6)], sharedChart) := by decide +kernel
  have shared := (shared_graph closed).2 [loopScript, brokenScript, plainScript]
  have edge : ⟨3, 4, none⟩ ∈ (begun.walkAll [loopScript, brokenScript, plainScript]).2.edges := by
    simp [walked, sharedChart]
  exact ⟨closed, walked, shared.1.symm.trans walked, shared.2 _ _ _ rfl _ edge⟩

end Graph

end Flowchart
