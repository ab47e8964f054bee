import Flowchart.Proofs.Text.Span
import Flowchart.Proofs.Walk.Visits

/-! What may be wrong with a statement, and the nodes that a walk has placed by the first one with which
something is. -/
namespace Flowchart

namespace Walk

/-- What is wrong with a statement at a level: it is too deep, or its label shows what is no piece of the
script. The first such range counts. -/
inductive Offends (source : String) : Nat × Statement → WalkFault → Prop
  | tooDeep {level : Nat} {s : Statement} :
    walkLimit ≤ level → Offends source (level, s) (.tooDeep walkLimit)
  | outside {level : Nat} {s : Statement} {before after : List Span} {span : Span} :
    level < walkLimit → s.labelSpans = before ++ span :: after →
    (∀ piece ∈ before, piece.Within source) → ¬ span.Within source →
      Offends source (level, s) (.outside span source.utf8ByteSize)

section Offence

variable {source : String} {level : Nat} {s : Statement} {place : Nat × Statement} {fault : WalkFault}
  {g : Graph}

theorem read_fine_iff {span : Span} :
    (Step.read span).fault? source = none ↔ span.Within source := by
  rw [← Span.slice_isSome_iff, Step.fault?]
  cases span.slice? source <;> simp

theorem read_wrong_iff {span : Span} : (Step.read span).fault? source = some fault ↔
    ¬ span.Within source ∧ fault = .outside span source.utf8ByteSize := by
  rw [← Span.slice_isSome_iff, Step.fault?]
  cases span.slice? source <;> simp [eq_comm]

/-- Only the level and the ranges of its label may be wrong with a statement. -/
theorem offence?_eq (source : String) (level : Nat) (s : Statement) : offence? source (level, s) =
    ((Step.descend level).fault? source).or
      ((s.labelSpans.map Step.read).findSome? (Step.fault? source)) := by
  have nodes : ((s.node? source).toList.map Step.node).findSome? (Step.fault? source) = none := by
    simp [Step.fault?]
  rw [offence?, entering, findSome?_first, List.findSome?_append, nodes, Option.or_none]

theorem offence?_eq_some_iff : offence? source place = some fault ↔ Offends source place fault := by
  obtain ⟨level, s⟩ := place
  rw [offence?_eq]
  constructor
  · intro wrong
    by_cases deep : walkLimit ≤ level
    · simp only [Step.fault?, if_pos deep, Option.some_or, Option.some.injEq] at wrong
      exact wrong ▸ .tooDeep deep
    · simp only [Step.fault?, if_neg deep, Option.none_or, List.findSome?_map] at wrong
      obtain ⟨before, span, after, spans, here, fine⟩ := List.findSome?_eq_some_iff.mp wrong
      obtain ⟨outside, rfl⟩ := read_wrong_iff.mp here
      exact .outside (Nat.lt_of_not_le deep) spans (fun piece member => read_fine_iff.mp (fine piece member))
        outside
  · intro offends
    cases offends with
    | tooDeep deep => simp [Step.fault?, deep]
    | outside shallow spans fine outside =>
      have fine' : Step.fault? source (.descend level) = none := by
        simp [Step.fault?, Nat.not_le.mpr shallow]
      rw [fine', Option.none_or, List.findSome?_map]
      refine List.findSome?_eq_some_iff.mpr ⟨_, _, _, spans, read_wrong_iff.mpr ⟨outside, rfl⟩, ?_⟩
      exact fun piece member => read_fine_iff.mpr (fine piece member)

theorem offence?_eq_none (fits : ∀ fault, ¬ Offends source place fault) :
    offence? source place = none := by
  cases wrong : offence? source place with
  | none => rfl
  | some fault => exact absurd (offence?_eq_some_iff.mp wrong) (fits fault)

theorem first_offence {places before after : List (Nat × Statement)}
    (split : places = before ++ place :: after) (wrong : offence? source place = some fault)
    (fine : ∀ other ∈ before, offence? source other = none) :
    places.find? (fun other => (offence? source other).isSome) = some place := by
  refine List.find?_eq_some_iff_append.mpr ⟨by rw [wrong]; rfl, before, after, split, ?_⟩
  intro other member
  rw [fine other member]
  rfl

theorem performed_entering (wrong : offence? source (level, s) = some fault) :
    ∀ step ∈ performed source (entering source level s), step.node? = none ∧ step.edge? = none := by
  rw [offence?_eq, ← findSome?_first] at wrong
  rw [entering, ← List.cons_append, performed_append_of_fault wrong]
  intro step member
  rcases List.mem_cons.mp ((List.takeWhile_sublist _).subset member) with rfl | label
  · exact ⟨rfl, rfl⟩
  · obtain ⟨span, _, rfl⟩ := List.mem_map.mp label
    exact ⟨rfl, rfl⟩

end Offence

section Left

variable {source : String} {level n : Nat} {incoming : Option Nat} {s : Statement}
  {before after : List (Nat × Statement)} {place : Nat × Statement} {fault : WalkFault} {g : Graph}

def Step.isEdge (step : Step) : Bool := step.edge?.isSome

theorem unjoined_edges (es : List Edge) : (es.map Step.edge).filter (fun step => !step.isEdge) = [] := by
  simp [Step.isEdge, Step.edge?]

theorem unjoined_entering (source : String) (level : Nat) (s : Statement) :
    (entering source level s).filter (fun step => !step.isEdge) = entering source level s := by
  rw [List.filter_eq_self]
  intro step member
  have none := edges_entering source level s
  rw [List.filterMap_eq_nil_iff] at none
  simp [Step.isEdge, none step member]

/-- What a statement does before its parts, for each of some statements. -/
def begun (source : String) (places : List (Nat × Statement)) : List Step :=
  places.flatMap fun place => entering source place.1 place.2

mutual

/-- But for edges, a plan is what the statements do before their parts. -/
theorem plan_unjoined (source : String) (level n : Nat) (incoming : Option Nat) :
    ∀ s : Statement, (plan source level n incoming s).filter (fun step => !step.isEdge) =
      begun source (s.reached level)
  | .program _ body | .block _ body => by
    simp only [plan, List.filter_append, unjoined_entering, planAll_unjoined _ _ _ _ body, begun,
      Statement.reached, List.flatMap_cons]
  | .function _ _ body | .loop _ _ body | .conditional _ _ body none => by
    simp only [plan, List.filter_append, unjoined_entering, unjoined_edges, plan_unjoined _ _ _ _ body,
      begun, Statement.reached, List.flatMap_cons, List.nil_append, List.append_nil]
  | .conditional _ _ consequent (some alternate) => by
    simp only [plan, List.filter_append, unjoined_entering, unjoined_edges,
      plan_unjoined _ _ _ _ consequent, plan_unjoined _ _ _ _ alternate, begun, Statement.reached,
      List.flatMap_cons, List.flatMap_append, List.nil_append, List.append_nil]
  | .declaration .. | .expression _ | .exit .. | .unsupported .. => by
    simp only [plan, List.filter_append, unjoined_entering, unjoined_edges, begun, Statement.reached,
      List.flatMap_cons, List.flatMap_nil, List.append_nil]

theorem planAll_unjoined (source : String) (level n : Nat) (incoming : Option Nat) :
    ∀ ss : List Statement, (planAll source level n incoming ss).filter (fun step => !step.isEdge) =
      begun source (Statement.reachedAll level ss)
  | [] => rfl
  | s :: rest => by
    simp only [planAll, List.filter_append, plan_unjoined _ _ _ _ s, planAll_unjoined _ _ _ _ rest, begun,
      Statement.reachedAll, List.flatMap_append]

end

theorem performed_unjoined (source : String) (steps : List Step) :
    (performed source steps).filter (fun step => !step.isEdge) =
      performed source (steps.filter fun step => !step.isEdge) := by
  induction steps with
  | nil => rfl
  | cons step rest ih =>
    cases step with
    | edge e => exact ih
    | node node =>
      exact congrArg (Step.node node :: ·) ih
    | descend level | read span =>
      unfold performed at ih ⊢
      rw [List.filter_cons_of_pos rfl, List.takeWhile_cons, List.takeWhile_cons]
      split
      · rw [List.filter_cons_of_pos rfl, ih]
      · rfl

theorem nodes_unjoined (steps : List Step) :
    (steps.filter fun step => !step.isEdge).filterMap Step.node? = steps.filterMap Step.node? := by
  rw [List.filterMap_filter]
  congr 1
  funext step
  cases step <;> rfl

theorem nodes_begun (source : String) (places : List (Nat × Statement)) :
    (begun source places).filterMap Step.node? =
      places.filterMap fun place => place.2.node? source := by
  induction places with
  | nil => rfl
  | cons place rest ih =>
    rw [begun, List.flatMap_cons, List.filterMap_append, nodes_entering, List.filterMap_cons]
    rw [begun] at ih
    rw [ih]
    cases place.2.node? source <;> rfl

theorem begun_fine (fine : ∀ place ∈ before, offence? source place = none) :
    (begun source before).findSome? (Step.fault? source) = none := by
  rw [List.findSome?_eq_none_iff]
  intro step member
  obtain ⟨place, listed, inside⟩ := List.mem_flatMap.mp member
  exact List.findSome?_eq_none_iff.mp (fine place listed) step inside

/-- The nodes of a walk that stops are those of the statements before the one that is wrong. -/
theorem nodes_performed (split : s.reached level = before ++ place :: after)
    (fine : ∀ other ∈ before, offence? source other = none)
    (wrong : offence? source place = some fault) :
    (performed source (plan source level n incoming s)).filterMap Step.node? =
      before.filterMap fun other => other.2.node? source := by
  have none : (performed source (entering source place.1 place.2)).filterMap Step.node? = [] :=
    List.filterMap_eq_nil_iff.mpr fun step member => (performed_entering wrong step member).1
  -- Edges are never wrong, and without them the plan is cut where the list of statements is.
  calc
    _ = (performed source (begun source (s.reached level))).filterMap Step.node? := by
      rw [← nodes_unjoined, performed_unjoined, plan_unjoined]
    _ = (begun source before ++ performed source (entering source place.1 place.2)).filterMap
        Step.node? := by
      rw [split, begun, List.flatMap_append, List.flatMap_cons, ← begun, ← begun,
        performed_append (begun_fine fine), performed_append_of_fault wrong]
    _ = before.filterMap fun other => other.2.node? source := by
      rw [List.filterMap_append, none, List.append_nil, nodes_begun]

end Left

end Walk

end Flowchart
