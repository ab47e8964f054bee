import Flowchart.Proofs.Chart.Closed
import Flowchart.Proofs.Statement.Table
import Flowchart.Walk

/-! A walk as a list of steps that is known before the walk begins. It makes the steps in order
until one of them fails, so what it answers and what it leaves behind are read off the list. -/
namespace Flowchart

namespace Walk

/-- What a walk does between two moments at which it could stop. -/
inductive Step
  | descend (level : Nat)
  | read (span : Span)
  | node (node : Node)
  | edge (edge : Edge)

namespace Step

def fault? (source : String) : Step → Option WalkFault
  | descend level => if walkLimit ≤ level then some (.tooDeep walkLimit) else none
  | read span =>
    match span.slice? source with
    | some _ => none
    | none => some (.outside span source.utf8ByteSize)
  | node _ | edge _ => none

def apply (g : Graph) : Step → Graph
  | node n => { g with nodes := g.nodes.push n }
  | edge e => g.addEdge e.source e.target e.branch
  | descend _ | read _ => g

def node? : Step → Option Node
  | node n => some n
  | descend _ | read _ | edge _ => none

def edge? : Step → Option Edge
  | edge e => some e
  | descend _ | read _ | node _ => none

end Step

/-- The steps before the first that fails. -/
def performed (source : String) (steps : List Step) : List Step :=
  steps.takeWhile fun step => (step.fault? source).isNone

def answer {α : Type} (source : String) (steps : List Step) (value : α) : Except WalkFault α :=
  match steps.findSome? (Step.fault? source) with
  | none => .ok value
  | some fault => .error fault

end Walk

def Graph.after (g : Graph) (steps : List Walk.Step) : Graph := steps.foldl Walk.Step.apply g

@[simp] theorem Graph.after_nil (g : Graph) : g.after [] = g := rfl

theorem Graph.after_cons (g : Graph) (step : Walk.Step) (steps : List Walk.Step) :
    g.after (step :: steps) = (step.apply g).after steps := rfl

theorem Graph.after_append (g : Graph) (steps more : List Walk.Step) :
    g.after (steps ++ more) = (g.after steps).after more := List.foldl_append

namespace Walk

variable {α β : Type} {source : String} {g : Graph} {steps more : List Step}

theorem performed_append (fine : steps.findSome? (Step.fault? source) = none) :
    performed source (steps ++ more) = steps ++ performed source more := by
  rw [List.findSome?_eq_none_iff] at fine
  exact List.takeWhile_append_of_pos fun step member => by simp [fine step member]

theorem findSome?_first (f : α → Option β) (a : α) (rest : List α) :
    (a :: rest).findSome? f = (f a).or (rest.findSome? f) := by
  rw [List.findSome?_cons]
  cases f a <;> rfl

theorem findSome?_one (f : α → Option β) (a : α) : [a].findSome? f = f a := by
  rw [findSome?_first, List.findSome?_nil, Option.or_none]

theorem performed_eq (fine : steps.findSome? (Step.fault? source) = none) :
    performed source steps = steps := by
  have all : performed source (steps ++ []) = steps ++ [] := performed_append fine
  simpa using all

/-- Nothing is done after a fault. -/
theorem performed_append_of_fault {fault : WalkFault}
    (found : steps.findSome? (Step.fault? source) = some fault) :
    performed source (steps ++ more) = performed source steps := by
  induction steps with
  | nil => cases found
  | cons step rest ih =>
    cases here : step.fault? source with
    | some fault => simp [performed, here]
    | none =>
      rw [List.findSome?_cons, here] at found
      simpa [performed, here] using ih found

/-- What a part of a walk answers from a graph on, and the graph that it leaves. -/
def outcome (w : Walk α) (g : Graph) : Except WalkFault α × Graph := w.run.run g

theorem outcome_bind (w : Walk α) (f : α → Walk β) (g : Graph) :
    (w >>= f).outcome g = match w.outcome g with
      | (.ok a, g') => (f a).outcome g'
      | (.error fault, g') => (.error fault, g') := by
  unfold outcome
  rw [ExceptT.run_bind, StateT.run_bind]
  cases w.run.run g with
  | mk result g' => cases result <;> rfl

/-- A part of a walk makes some steps from a graph on, and answers a value if none fails. -/
def Makes (source : String) (w : Walk α) (g : Graph) (steps : List Step) (value : α) : Prop :=
  w.outcome g = (answer source steps value, g.after (performed source steps))

theorem Makes.bind {w : Walk α} {f : α → Walk β} {a : α} {b : β} (first : Makes source w g steps a)
    (second : Makes source (f a) (g.after steps) more b) :
    Makes source (w >>= f) g (steps ++ more) b := by
  unfold Makes at first second ⊢
  rw [outcome_bind, first]
  cases found : steps.findSome? (Step.fault? source) with
  | none =>
    simp only [answer, List.findSome?_append, found, performed_eq found, performed_append found,
      Graph.after_append, Option.none_or]
    exact second
  | some fault =>
    simp only [answer, List.findSome?_append, found, performed_append_of_fault found,
      Option.some_or]

theorem Makes.ok_iff {w : Walk α} {a b : α} {g' : Graph} (makes : Makes source w g steps a) :
    w.outcome g = (.ok b, g') ↔
      steps.findSome? (Step.fault? source) = none ∧ b = a ∧ g' = g.after steps := by
  rw [makes, answer]
  cases found : steps.findSome? (Step.fault? source) with
  | none =>
    rw [performed_eq found]
    simp only [Prod.mk.injEq, Except.ok.injEq, true_and]
    exact and_congr eq_comm eq_comm
  | some fault => simp

theorem Makes.pure (value : α) : Makes source (pure value) g [] value := rfl

theorem Makes.value {w : Walk α} {a : α} (makes : Makes source w g steps a) (f : α → β) :
    Makes source (do return f (← w)) g steps (f a) := by
  have last := makes.bind (f := fun a => Pure.pure (f a)) (.pure (f a))
  rwa [List.append_nil] at last

theorem guardLevel_makes (level : Nat) : Makes source (guardLevel level) g [.descend level] () := by
  unfold guardLevel Makes
  by_cases deep : walkLimit ≤ level
  · simp [answer, performed, Step.fault?, deep]
    rfl
  · simp [answer, performed, Step.fault?, deep]
    rfl

theorem text_makes (span : Span) :
    Makes source (text source span) g [.read span] (span.text source) := by
  unfold text Makes
  cases piece : span.slice? source with
  | some piece => 
    simp [answer, performed, Step.fault?, piece, Span.text]
    rfl
  | none => 
    simp [answer, performed, Step.fault?, piece]
    rfl

theorem declarator_makes (d : Declarator) :
    Makes source (declarator source d) g ((d.name :: d.value.toList).map .read)
      (d.label source) := by
  cases d with
  | mk name value =>
    cases value with
    | none => exact (text_makes name).value fun name => name ++ " = " ++ "undefined"
    | some value =>
      exact (text_makes name).bind ((text_makes value).value fun value => _ ++ " = " ++ value)

theorem declarators_makes (ds : List Declarator) :
    Makes source (declarators source ds) g
      ((ds.flatMap fun d => d.name :: d.value.toList).map .read)
      (ds.map (Declarator.label source)) := by
  induction ds generalizing g with
  | nil => exact .pure []
  | cons d rest ih =>
    rw [List.flatMap_cons, List.map_append]
    exact (declarator_makes d).bind (ih.value (d.label source :: ·))

theorem place_makes (label : String) (kind : NodeKind) (incoming : Option Nat) :
    Makes source (place label kind incoming) g
      (.node ⟨escapeLabel label, kind⟩ :: (Edge.into incoming g.nodes.size).map .edge)
      g.nodes.size := by
  cases incoming <;> rfl

theorem joinTo_makes (current : Nat) (branch : Branch) (out : Option Nat) :
    Makes source (joinTo current branch out) g ((Edge.toBranch current branch out).map .edge) () := by
  cases out <;> rfl

theorem loopBack_makes (current : Nat) (out : Option Nat) :
    Makes source (loopBack current out) g ((Edge.into out current).map .edge) () := by
  cases out <;> rfl

/-- What a statement does before its parts: it is looked at, and gets its node. -/
def entering (source : String) (level : Nat) (s : Statement) : List Step :=
  .descend level :: (s.labelSpans.map .read ++ (s.node? source).toList.map .node)

mutual

/-- The steps of a walk over a tree whose first node has the number `n`. -/
def plan (source : String) (level n : Nat) (incoming : Option Nat) : Statement → List Step
  | .program span body =>
    entering source level (.program span body) ++ planAll source (level + 1) n none body
  | .block span body =>
    entering source level (.block span body) ++ planAll source (level + 1) n incoming body
  | .function span name body =>
    entering source level (.function span name body) ++
      ((Edge.into incoming n).map .edge ++ plan source (level + 1) (n + 1) (some n) body)
  | .conditional span test consequent none =>
    entering source level (.conditional span test consequent none) ++
      ((Edge.into incoming n).map .edge ++
      (plan source (level + 1) (n + 1) (some n) consequent ++
      (Edge.toBranch n .whenTrue (consequent.last (n + 1) (some n))).map .edge))
  | .conditional span test consequent (some alternate) =>
    entering source level (.conditional span test consequent (some alternate)) ++
      ((Edge.into incoming n).map .edge ++
      (plan source (level + 1) (n + 1) (some n) consequent ++
      ((Edge.toBranch n .whenTrue (consequent.last (n + 1) (some n))).map .edge ++
      (plan source (level + 1) (n + 1 + consequent.size) (some n) alternate ++
      (Edge.toBranch n .whenFalse
        (alternate.last (n + 1 + consequent.size) (some n))).map .edge))))
  | .loop span test body =>
    entering source level (.loop span test body) ++
      ((Edge.into incoming n).map .edge ++
      (plan source (level + 1) (n + 1) (some n) body ++
      (Edge.into (body.last (n + 1) (some n)) n).map .edge))
  | .declaration span ds =>
    entering source level (.declaration span ds) ++ (Edge.into incoming n).map .edge
  | .expression span =>
    entering source level (.expression span) ++ (Edge.into incoming n).map .edge
  | .exit span argument =>
    entering source level (.exit span argument) ++ (Edge.into incoming n).map .edge
  | .unsupported span kind => entering source level (.unsupported span kind)

def planAll (source : String) (level n : Nat) (incoming : Option Nat) :
    List Statement → List Step
  | [] => []
  | s :: rest =>
    plan source level n incoming s ++
      planAll source level (n + s.size) (s.last n incoming) rest

end

section Parts

variable (source : String) (level : Nat) (s : Statement) (es : List Edge)

theorem nodes_entering :
    (entering source level s).filterMap Step.node? = (s.node? source).toList := by
  have unnamed : (s.labelSpans.map Step.read).filterMap Step.node? = [] := by
    simp [List.filterMap_map, Function.comp_def, Step.node?]
  rw [entering, List.filterMap_cons, List.filterMap_append, unnamed]
  cases s.node? source <;> rfl

theorem edges_entering : (entering source level s).filterMap Step.edge? = [] := by
  simp [entering, List.filterMap_cons, List.filterMap_map, Function.comp_def, Step.edge?]

theorem nodes_edges : (es.map Step.edge).filterMap Step.node? = [] := by
  simp [List.filterMap_map, Function.comp_def, Step.node?]

theorem edges_edges : (es.map Step.edge).filterMap Step.edge? = es := by
  simp [List.filterMap_map, Function.comp_def, Step.edge?]

end Parts

mutual

theorem plan_nodes (source : String) (level n : Nat) (incoming : Option Nat) :
    ∀ s : Statement, (plan source level n incoming s).filterMap Step.node? = s.nodes source
  | .program _ body | .block _ body => by
    simp only [plan, List.filterMap_append, nodes_entering, planAll_nodes _ _ _ _ body,
      Statement.nodes, Statement.preorder, Statement.nodes_first]
  | .function _ _ body | .loop _ _ body | .conditional _ _ body none => by
    simp only [plan, List.filterMap_append, nodes_entering, nodes_edges, List.append_nil,
      List.nil_append, plan_nodes _ _ _ _ body, Statement.nodes, Statement.preorder,
      Statement.nodes_first]
  | .conditional _ _ consequent (some alternate) => by
    simp only [plan, List.filterMap_append, nodes_entering, nodes_edges, List.append_nil,
      plan_nodes _ _ _ _ consequent, plan_nodes _ _ _ _ alternate, Statement.nodes,
      Statement.preorder, Statement.nodes_first, List.nil_append]
  | .declaration .. | .expression _ | .exit .. | .unsupported .. => by
    simp only [plan, List.filterMap_append, nodes_entering, nodes_edges, List.append_nil,
      Statement.nodes, Statement.preorder, Statement.nodes_first, List.filterMap_nil]

theorem planAll_nodes (source : String) (level n : Nat) (incoming : Option Nat) :
    ∀ ss : List Statement, (planAll source level n incoming ss).filterMap Step.node? =
      (Statement.preorderAll ss).filterMap (Statement.node? source)
  | [] => rfl
  | s :: rest => by
    simp only [planAll, List.filterMap_append, plan_nodes _ _ _ _ s, planAll_nodes _ _ _ _ rest,
      Statement.nodes, Statement.preorderAll]

end

mutual

theorem plan_edges (source : String) (level n : Nat) (incoming : Option Nat) :
    ∀ s : Statement, (plan source level n incoming s).filterMap Step.edge? = s.arrows n incoming
  | .program _ body | .block _ body => by
    simp only [plan, List.filterMap_append, edges_entering, List.nil_append,
      planAll_edges _ _ _ _ body, Statement.arrows]
  | .function _ _ body | .loop _ _ body | .conditional _ _ body none => by
    simp only [plan, List.filterMap_append, edges_entering, edges_edges, List.nil_append,
      plan_edges _ _ _ _ body, Statement.arrows, List.append_assoc]
  | .conditional _ _ consequent (some alternate) => by
    simp only [plan, List.filterMap_append, edges_entering, edges_edges, List.nil_append,
      plan_edges _ _ _ _ consequent, plan_edges _ _ _ _ alternate, Statement.arrows,
      List.append_assoc]
  | .declaration .. | .expression _ | .exit .. | .unsupported .. => by
    simp only [plan, List.filterMap_append, edges_entering, edges_edges, List.nil_append,
      Statement.arrows]

theorem planAll_edges (source : String) (level n : Nat) (incoming : Option Nat) :
    ∀ ss : List Statement, (planAll source level n incoming ss).filterMap Step.edge? =
      Statement.arrowsAll n incoming ss
  | [] => rfl
  | s :: rest => by
    simp only [planAll, List.filterMap_append, plan_edges _ _ _ _ s, planAll_edges _ _ _ _ rest,
      Statement.arrowsAll]

end

theorem nodes_after (g : Graph) (steps : List Step) :
    (g.after steps).nodes.toList = g.nodes.toList ++ steps.filterMap Step.node? := by
  induction steps generalizing g with
  | nil => simp
  | cons step rest ih =>
    rw [Graph.after_cons, ih]
    cases step <;> simp [Step.apply, Step.node?, List.filterMap_cons, Graph.nodes_addEdge]

theorem size_after (g : Graph) (steps : List Step) :
    (g.after steps).nodes.size = g.nodes.size + (steps.filterMap Step.node?).length := by
  rw [← Array.length_toList, nodes_after, List.length_append, Array.length_toList]

theorem after_reads (g : Graph) (spans : List Span) : g.after (spans.map .read) = g := by
  induction spans with
  | nil => rfl
  | cons span rest ih => exact ih

theorem size_placed (g : Graph) (span : Span) (level : Nat) (node : Node) (es : List Edge) :
    (((g.after [.descend level]).after [.read span]).after
      (.node node :: es.map .edge)).nodes.size = g.nodes.size + 1 := by
  rw [size_after, List.filterMap_cons, nodes_edges]
  rfl

mutual

/-- A walk makes the steps of its plan, and answers the last node of its tree. -/
theorem visit_makes {level n : Nat} {incoming : Option Nat} :
    ∀ (s : Statement) {g : Graph}, g.nodes.size = n →
      Makes source (visit source level incoming s) g (plan source level n incoming s)
        (s.last n incoming)
  | .program _ body, g, start | .block _ body, g, start =>
    (guardLevel_makes level).bind (visitAll_makes body start)
  | .function _ name body, g, start => by
    subst start
    refine (guardLevel_makes level).bind ((text_makes name).bind
      ((place_makes _ _ incoming).bind ((visit_makes body ?_).value _)))
    exact size_placed ..
  | .conditional _ test consequent none, g, start => by
    subst start
    refine (guardLevel_makes level).bind ((text_makes test).bind
      ((place_makes _ _ incoming).bind ((visit_makes consequent ?_).bind
        ((joinTo_makes _ _ _).value _))))
    exact size_placed ..
  | .conditional _ test consequent (some alternate), g, start => by
    subst start
    refine (guardLevel_makes level).bind ((text_makes test).bind
      ((place_makes _ _ incoming).bind ((visit_makes consequent ?_).bind
        ((joinTo_makes _ _ _).bind ((visit_makes alternate ?_).bind
          ((joinTo_makes _ _ _).value _))))))
    · exact size_placed ..
    · rw [size_after, nodes_edges, size_after, plan_nodes, Statement.nodes_length]
      exact congrArg (· + consequent.size) (size_placed ..)
  | .loop _ test body, g, start => by
    subst start
    refine (guardLevel_makes level).bind ((text_makes test).bind
      ((place_makes _ _ incoming).bind ((visit_makes body ?_).bind
        ((loopBack_makes _ _).value _))))
    exact size_placed ..
  | .declaration _ ds, g, start => by
    subst start
    rw [plan, entering, List.cons_append, List.append_assoc]
    refine (guardLevel_makes level).bind ((declarators_makes ds).bind ?_)
    rw [after_reads]
    exact (place_makes _ _ incoming).value _
  | .expression span, g, start | .exit _ (some span), g, start => by
    subst start
    exact (guardLevel_makes level).bind ((text_makes span).bind
      ((place_makes _ _ incoming).value _))
  | .exit _ none, g, start => by
    subst start
    exact (guardLevel_makes level).bind ((place_makes _ _ incoming).value _)
  | .unsupported .., g, start => (guardLevel_makes level).value _

theorem visitAll_makes {level n : Nat} {incoming : Option Nat} :
    ∀ (ss : List Statement) {g : Graph}, g.nodes.size = n →
      Makes source (visitAll source level incoming ss) g (planAll source level n incoming ss)
        (Statement.lastAll n incoming ss)
  | [], g, start => .pure incoming
  | s :: rest, g, start => by
    apply (visit_makes s start).bind
    apply visitAll_makes rest
    rw [size_after, plan_nodes, Statement.nodes_length, start]

end

/-- What is wrong with a statement at a level, if anything is. -/
def offence? (source : String) (place : Nat × Statement) : Option WalkFault :=
  (entering source place.1 place.2).findSome? (Step.fault? source)

theorem edges_fine (source : String) (es : List Edge) :
    (es.map Step.edge).findSome? (Step.fault? source) = none := by
  simp [Step.fault?]

mutual

/-- A plan fails at the first statement with which something is wrong. -/
theorem plan_fault (source : String) (level n : Nat) (incoming : Option Nat) :
    ∀ s : Statement, (plan source level n incoming s).findSome? (Step.fault? source) =
      (s.reached level).findSome? (offence? source)
  | .program _ body | .block _ body => by
    simp only [plan, List.findSome?_append, planAll_fault _ _ _ _ body, Statement.reached,
      findSome?_first, offence?]
  | .function _ _ body | .loop _ _ body | .conditional _ _ body none => by
    simp only [plan, List.findSome?_append, edges_fine, Option.none_or, Option.or_none,
      plan_fault _ _ _ _ body, Statement.reached, findSome?_first, offence?]
  | .conditional _ _ consequent (some alternate) => by
    simp only [plan, List.findSome?_append, edges_fine, Option.none_or, Option.or_none,
      plan_fault _ _ _ _ consequent, plan_fault _ _ _ _ alternate, Statement.reached,
      findSome?_first, offence?]
  | .declaration .. | .expression _ | .exit .. | .unsupported .. => by
    simp only [plan, List.findSome?_append, edges_fine, Option.or_none, Statement.reached,
      findSome?_first, List.findSome?_nil, offence?]

theorem planAll_fault (source : String) (level n : Nat) (incoming : Option Nat) :
    ∀ ss : List Statement, (planAll source level n incoming ss).findSome? (Step.fault? source) =
      (Statement.reachedAll level ss).findSome? (offence? source)
  | [] => rfl
  | s :: rest => by
    simp only [planAll, List.findSome?_append, plan_fault _ _ _ _ s, planAll_fault _ _ _ _ rest,
      Statement.reachedAll]

end

/-- A statement at a level that a walk accepts, with a label whose ranges lie in the script. -/
def Fits (source : String) (place : Nat × Statement) : Prop :=
  place.1 < walkLimit ∧ ∀ span ∈ place.2.labelSpans, (span.slice? source).isSome

theorem offence?_eq_none_iff (source : String) (place : Nat × Statement) :
    offence? source place = none ↔ Fits source place := by
  have level : Step.fault? source (.descend place.1) = none ↔ place.1 < walkLimit := by
    simp [Step.fault?]
  have label (span : Span) :
      Step.fault? source (.read span) = none ↔ (span.slice? source).isSome := by
    cases piece : span.slice? source <;> simp [Step.fault?, piece]
  simp only [offence?, entering, findSome?_first, Option.or_eq_none_iff, level, Fits,
    List.findSome?_append, List.findSome?_eq_none_iff, List.forall_mem_map, label]
  simp [Step.fault?]

end Walk

end Flowchart
