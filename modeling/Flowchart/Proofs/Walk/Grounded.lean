import Flowchart.Proofs.Statement.Arrows
import Flowchart.Proofs.Walk.Plan

/-! The edges of a walk join nodes that are there when they are added. So a walk that stops halfway
leaves no edge without its nodes either. -/
namespace Flowchart.Walk

variable {source : String} {level n : Nat} {incoming : Option Nat} {s : Statement} {g : Graph}
  {steps more : List Step}

/-- Every edge joins nodes that are there when it is added, if `n` nodes are there before. -/
def Grounded (n : Nat) : List Step → Prop
  | [] => True
  | .node _ :: rest => Grounded (n + 1) rest
  | .edge e :: rest => (e.source < n ∧ e.target < n) ∧ Grounded n rest
  | .descend _ :: rest | .read _ :: rest => Grounded n rest

theorem grounded_append (n : Nat) (steps more : List Step) :
    Grounded n (steps ++ more) ↔
      Grounded n steps ∧ Grounded (n + (steps.filterMap Step.node?).length) more := by
  induction steps generalizing n with
  | nil => exact (true_and _).symm ▸ Iff.rfl
  | cons step rest ih =>
    cases step with
    | node node =>
      have counted : (Step.node node :: rest).filterMap Step.node? =
        node :: rest.filterMap Step.node? := rfl
      rw [counted, List.length_cons, ← Nat.add_assoc, Nat.add_right_comm]
      exact ih (n + 1)
    | edge e => exact (and_congr_right fun _ => ih n).trans and_assoc.symm
    | descend level | read span => exact ih n

theorem grounded_edges_append {es : List Edge} :
    Grounded n (es.map .edge ++ more) ↔
      (∀ e ∈ es, e.source < n ∧ e.target < n) ∧ Grounded n more := by
  induction es with
  | nil => simp
  | cons e rest ih =>
    rw [List.forall_mem_cons, and_assoc, ← ih]
    exact Iff.rfl

theorem grounded_edges {es : List Edge} (inside : ∀ e ∈ es, e.source < n ∧ e.target < n) :
    Grounded n (es.map .edge) := by
  have all : Grounded n (es.map .edge ++ []) := grounded_edges_append.mpr ⟨inside, trivial⟩
  rwa [List.append_nil] at all

theorem grounded_entering_append (source : String) (level n : Nat) (s : Statement) :
    Grounded n (entering source level s ++ more) ↔
      Grounded (n + (s.node? source).toList.length) more := by
  have looked (spans : List Span) (rest : List Step) :
      Grounded n (spans.map .read ++ rest) ↔ Grounded n rest := by
    induction spans with
    | nil => exact Iff.rfl
    | cons span spans ih => exact ih
  rw [entering, List.cons_append, List.append_assoc, Grounded, looked]
  cases s.node? source <;> exact Iff.rfl

theorem grounded_plan_append (source : String) (level first : Nat) (s : Statement) :
    Grounded n (plan source level first incoming s ++ more) ↔
      Grounded n (plan source level first incoming s) ∧ Grounded (n + s.size) more := by
  rw [grounded_append, plan_nodes, Statement.nodes_length]

section Inside

variable {stop : Nat} {out : Option Nat}

theorem own_before {m : Nat} (same : some n = some m) : m < n + 1 :=
  Option.some.inj same ▸ n.lt_succ_self

theorem into_inside (own : n < stop) (known : ∀ m, out = some m → m < stop) :
    ∀ e ∈ Edge.into out n, e.source < stop ∧ e.target < stop := by
  intro e member
  obtain ⟨m, handed, rfl⟩ := Edge.mem_into.mp member
  exact ⟨known m handed, own⟩

theorem entry_inside (before : ∀ m, incoming = some m → m < n) :
    ∀ e ∈ Edge.into incoming n, e.source < n + 1 ∧ e.target < n + 1 :=
  into_inside n.lt_succ_self fun m given => Nat.lt_succ_of_lt (before m given)

theorem toBranch_inside (branch : Branch) (own : n < stop)
    (known : ∀ m, out = some m → m < stop) :
    ∀ e ∈ Edge.toBranch n branch out, e.source < stop ∧ e.target < stop := by
  intro e member
  obtain ⟨m, handed, rfl⟩ := Edge.mem_toBranch.mp member
  exact ⟨own, known m handed⟩

end Inside

mutual

/-- A walk joins only nodes that it has placed or was given. -/
theorem plan_grounded (source : String) (level n : Nat) (incoming : Option Nat)
    (before : ∀ m, incoming = some m → m < n) :
    ∀ s : Statement, Grounded n (plan source level n incoming s)
  | .program _ body => planAll_grounded source (level + 1) n none nofun body
  | .block _ body => planAll_grounded source (level + 1) n incoming before body
  | .function _ _ body => by
    have inner := plan_grounded source (level + 1) (n + 1) (some n) (fun _ => own_before) body
    exact (grounded_entering_append ..).mpr
      (grounded_edges_append.mpr ⟨entry_inside before, inner⟩)
  | .conditional _ _ consequent none => by
    have inner := plan_grounded source (level + 1) (n + 1) (some n) (fun _ => own_before) consequent
    have known := Statement.last_before (s := consequent) (fun _ => own_before (n := n))
    have branch := toBranch_inside .whenTrue (by omega : n < n + 1 + consequent.size) known
    exact (grounded_entering_append ..).mpr (grounded_edges_append.mpr ⟨entry_inside before,
      (grounded_plan_append ..).mpr ⟨inner, grounded_edges branch⟩⟩)
  | .conditional _ _ consequent (some alternate) => by
    have first := plan_grounded source (level + 1) (n + 1) (some n) (fun _ => own_before) consequent
    have known := Statement.last_before (s := consequent) (fun _ => own_before (n := n))
    have branch := toBranch_inside .whenTrue (by omega : n < n + 1 + consequent.size) known
    have own : ∀ m, some n = some m → m < n + 1 + consequent.size := fun m same =>
      Nat.lt_of_lt_of_le (own_before same) (Nat.le_add_right _ _)
    have second := plan_grounded source (level + 1) (n + 1 + consequent.size) (some n) own alternate
    have other := toBranch_inside .whenFalse
      (by omega : n < n + 1 + consequent.size + alternate.size) (Statement.last_before own)
    exact (grounded_entering_append ..).mpr (grounded_edges_append.mpr ⟨entry_inside before,
      (grounded_plan_append ..).mpr ⟨first, grounded_edges_append.mpr ⟨branch,
        (grounded_plan_append ..).mpr ⟨second, grounded_edges other⟩⟩⟩⟩)
  | .loop _ _ body => by
    have inner := plan_grounded source (level + 1) (n + 1) (some n) (fun _ => own_before) body
    have known := Statement.last_before (s := body) (fun _ => own_before (n := n))
    have back := into_inside (by omega : n < n + 1 + body.size) known
    exact (grounded_entering_append ..).mpr (grounded_edges_append.mpr ⟨entry_inside before,
      (grounded_plan_append ..).mpr ⟨inner, grounded_edges back⟩⟩)
  | .declaration .. | .expression _ | .exit .. =>
    (grounded_entering_append ..).mpr (grounded_edges (entry_inside before))
  | .unsupported .. => trivial

theorem planAll_grounded (source : String) (level n : Nat) (incoming : Option Nat)
    (before : ∀ m, incoming = some m → m < n) :
    ∀ ss : List Statement, Grounded n (planAll source level n incoming ss)
  | [] => trivial
  | s :: rest => by
    rw [planAll, grounded_plan_append]
    exact ⟨plan_grounded source level n incoming before s,
      planAll_grounded source level (n + s.size) _ (Statement.last_before before) rest⟩

end

theorem closed_after (closed : g.Closed) (grounded : Grounded g.nodes.size steps) :
    (g.after steps).Closed := by
  induction steps generalizing g with
  | nil => exact closed
  | cons step rest ih =>
    rw [Graph.after_cons]
    cases step with
    | descend level | read span => exact ih closed grounded
    | node node =>
      refine ih ?_ (by rwa [Step.apply, Array.size_push])
      intro e member
      have ends := closed e member
      rw [Step.apply, Array.size_push]
      omega
    | edge e =>
      have same : (g.addEdge e.source e.target e.branch).nodes = g.nodes := Graph.nodes_addEdge ..
      refine ih ?_ (by rw [Step.apply, same]; exact grounded.2)
      intro e' member
      rw [Step.apply, same]
      rcases Graph.mem_addEdge.mp member with old | rfl
      · exact closed e' old
      · exact grounded.1

/-- Also a walk that fails leaves no edge without its nodes. -/
theorem closed_outcome (closed : g.Closed) (known : g.Knows incoming) :
    ((visit source level incoming s).outcome g).2.Closed := by
  have makes : Makes source (visit source level incoming s) g _ _ := visit_makes s rfl
  rw [makes]
  apply closed_after closed
  have whole := plan_grounded source level g.nodes.size incoming known s
  rw [← List.takeWhile_append_dropWhile (p := fun step => (step.fault? source).isNone)
    (l := plan source level g.nodes.size incoming s)] at whole
  exact ((grounded_append ..).mp whole).1

end Flowchart.Walk
