import Flowchart.Proofs.Walk.Reading
import Mathlib.Logic.Relation

/-! The visits that make up a walk. Each of them is told a level and a node that flows in, and finds
the graph as the visits before it have left it. -/
namespace Flowchart.Walk

/-- How the visit of a statement with parts begins: its node is placed. -/
def enter (source : String) (level : Nat) (incoming : Option Nat) (span : Span)
    (label : String → String) (kind : NodeKind) : Walk Nat := do
  guardLevel level
  place (label (← text source span)) kind incoming

def enterFunction (source : String) (level : Nat) (incoming : Option Nat) (name : Span) :
    Walk Nat :=
  enter source level incoming name (fun name => "Function: " ++ name) .function

def enterCondition (source : String) (level : Nat) (incoming : Option Nat) (test : Span) :
    Walk Nat :=
  enter source level incoming test (fun test => "if (" ++ test ++ ")") .condition

def enterLoop (source : String) (level : Nat) (incoming : Option Nat) (test : Span) : Walk Nat :=
  enter source level incoming test (fun test => "while (" ++ test ++ ")") .loop

structure Visit where
  level : Nat
  incoming : Option Nat
  statement : Statement
  graph : Graph

namespace Visit

def outcome (source : String) (v : Visit) : Except WalkFault (Option Nat) × Graph :=
  (visit source v.level v.incoming v.statement).outcome v.graph

/-- The visits to the statements of a list, each told what flows out of the one before. -/
inductive Item (source : String) (level : Nat) :
    Option Nat → List Statement → Graph → Visit → Prop
  | head {incoming : Option Nat} {s : Statement} {rest : List Statement} {g : Graph} :
    Item source level incoming (s :: rest) g ⟨level, incoming, s, g⟩
  | tail {incoming out : Option Nat} {s : Statement} {rest : List Statement} {g g' : Graph}
    {v : Visit} : (visit source level incoming s).outcome g = (.ok out, g') →
      Item source level out rest g' v → Item source level incoming (s :: rest) g v

/-- The visits that a visit makes itself, each in the graph that it has until then. -/
inductive Calls (source : String) : Visit → Visit → Prop
  | program {level : Nat} {incoming : Option Nat} {span : Span} {body : List Statement}
    {g : Graph} {v : Visit} : Item source (level + 1) none body g v →
      Calls source ⟨level, incoming, .program span body, g⟩ v
  | block {level : Nat} {incoming : Option Nat} {span : Span} {body : List Statement}
    {g : Graph} {v : Visit} : Item source (level + 1) incoming body g v →
      Calls source ⟨level, incoming, .block span body, g⟩ v
  | function {level current : Nat} {incoming : Option Nat} {span name : Span}
    {body : Statement} {g g' : Graph} :
    (enterFunction source level incoming name).outcome g = (.ok current, g') →
      Calls source ⟨level, incoming, .function span name body, g⟩
        ⟨level + 1, some current, body, g'⟩
  | consequent {level current : Nat} {incoming : Option Nat} {span test : Span}
    {consequent : Statement} {alternate : Option Statement} {g g' : Graph} :
    (enterCondition source level incoming test).outcome g = (.ok current, g') →
      Calls source ⟨level, incoming, .conditional span test consequent alternate, g⟩
        ⟨level + 1, some current, consequent, g'⟩
  | alternate {level current : Nat} {incoming out : Option Nat} {span test : Span}
    {consequent alternate : Statement} {g g₁ g₂ g' : Graph} :
    (enterCondition source level incoming test).outcome g = (.ok current, g₁) →
    (visit source (level + 1) (some current) consequent).outcome g₁ = (.ok out, g₂) →
    (joinTo current .whenTrue out).outcome g₂ = (.ok (), g') →
      Calls source ⟨level, incoming, .conditional span test consequent (some alternate), g⟩
        ⟨level + 1, some current, alternate, g'⟩
  | body {level current : Nat} {incoming : Option Nat} {span test : Span} {body : Statement}
    {g g' : Graph} :
    (enterLoop source level incoming test).outcome g = (.ok current, g') →
      Calls source ⟨level, incoming, .loop span test body, g⟩
        ⟨level + 1, some current, body, g'⟩

/-- The visits that a walk makes from a first one on. -/
def Reaches (source : String) : Visit → Visit → Prop := Relation.ReflTransGen (Calls source)

end Visit

section Begin

variable {source : String} {level current : Nat} {incoming out : Option Nat}
  {span name test : Span} {body consequent alternate s : Statement} {ss : List Statement}
  {g g' : Graph} {kind : NodeKind} {label : String → String}

theorem visit_function :
    visit source level incoming (.function span name body) = (do
      let current ← enterFunction source level incoming name
      let _ ← visit source (level + 1) (some current) body
      return some current) := by
  simp only [visit, enterFunction, enter, bind_assoc]

theorem visit_conditional :
    visit source level incoming (.conditional span test consequent none) = (do
      let current ← enterCondition source level incoming test
      joinTo current .whenTrue (← visit source (level + 1) (some current) consequent)
      return some current) := by
  simp only [visit, enterCondition, enter, bind_assoc]

theorem visit_conditional_else :
    visit source level incoming (.conditional span test consequent (some alternate)) = (do
      let current ← enterCondition source level incoming test
      joinTo current .whenTrue (← visit source (level + 1) (some current) consequent)
      joinTo current .whenFalse (← visit source (level + 1) (some current) alternate)
      return some current) := by
  simp only [visit, enterCondition, enter, bind_assoc]

theorem visit_loop :
    visit source level incoming (.loop span test body) = (do
      let current ← enterLoop source level incoming test
      loopBack current (← visit source (level + 1) (some current) body)
      return some current) := by
  simp only [visit, enterLoop, enter, bind_assoc]

theorem outcome_bind_ok {α β : Type} {w : Walk α} {f : α → Walk β} {b : β} :
    (w >>= f).outcome g = (.ok b, g') ↔
      ∃ a g₁, w.outcome g = (.ok a, g₁) ∧ (f a).outcome g₁ = (.ok b, g') := by
  rw [outcome_bind]
  cases w.outcome g with
  | mk result g₁ =>
    cases result with
    | error fault => simp
    | ok a =>
      constructor
      · exact fun rest => ⟨a, g₁, rfl, rest⟩
      · rintro ⟨_, _, ⟨⟩, rest⟩
        exact rest

theorem guardLevel_ok (guarded : (guardLevel level).outcome g = (.ok (), g')) : g' = g := by
  have makes : Makes "" (guardLevel level) g [.descend level] () := guardLevel_makes level
  exact (makes.ok_iff.mp guarded).2.2

theorem joinTo_ok {branch : Branch} (joined : (joinTo current branch out).outcome g = (.ok (), g')) :
    g'.nodes = g.nodes ∧
      ∀ e, e ∈ g'.edges ↔ e ∈ g.edges ∨ e ∈ Edge.toBranch current branch out := by
  cases out with
  | none =>
    cases joined
    exact ⟨rfl, fun e => by simp [Edge.toBranch]⟩
  | some last =>
    cases joined
    exact ⟨Graph.nodes_addEdge .., fun e => Graph.mem_addEdge.trans (by simp [Edge.toBranch])⟩

/-- What is known of a graph in which a statement with parts has its node. -/
structure Entered (g g' : Graph) (incoming : Option Nat) (current : Nat) : Prop where
  current : current = g.nodes.size
  size : g'.nodes.size = g.nodes.size + 1
  edges : ∀ e, e ∈ g'.edges ↔ e ∈ g.edges ∨ e ∈ Edge.into incoming g.nodes.size

theorem enter_makes :
    Makes source (enter source level incoming span label kind) g
      (.descend level :: .read span :: .node ⟨escapeLabel (label (span.text source)), kind⟩ ::
        (Edge.into incoming g.nodes.size).map .edge) g.nodes.size :=
  (guardLevel_makes level).bind ((text_makes span).bind (place_makes _ kind incoming))

theorem enter_ok (entered : (enter source level incoming span label kind).outcome g =
    (.ok current, g')) : Entered g g' incoming current := by
  obtain ⟨_, rfl, rfl⟩ := enter_makes.ok_iff.mp entered
  refine ⟨rfl, size_placed g span level _ _, fun e => ?_⟩
  rw [Graph.mem_edges_after]
  simp only [List.filterMap_cons, Step.edge?, edges_edges]

theorem enter_outside {c : Nat} (entered : (enter source level incoming span label kind).outcome g =
    (.ok current, g')) (behind : g'.nodes.size ≤ c) : current ≤ c := by
  have began := enter_ok entered
  have number := began.current
  have size := began.size
  omega

theorem Entered.closed (entered : Entered g g' incoming current) (closed : g.Closed)
    (known : g.Knows incoming) : g'.Closed ∧ g'.Knows (some current) := by
  constructor
  · intro e member
    rw [entered.size]
    rcases (entered.edges e).mp member with old | added
    · have ends := closed e old
      omega
    · obtain ⟨m, given, rfl⟩ := Edge.mem_into.mp added
      have before := known m given
      exact ⟨by simp only; omega, by simp only; omega⟩
  · rintro m ⟨⟩
    rw [entered.size, entered.current]
    omega

end Begin

namespace Visit

variable {source : String} {v w : Visit}

/-- A visit in a graph that is closed and has the node that flows in. -/
def Ready (v : Visit) : Prop := v.graph.Closed ∧ v.graph.Knows v.incoming

theorem Item.ready {level : Nat} {incoming : Option Nat} {ss : List Statement} {g : Graph}
    (item : Item source level incoming ss g v) (closed : g.Closed) (known : g.Knows incoming) :
    v.Ready ∧ g.nodes.size ≤ v.graph.nodes.size := by
  induction item with
  | head => exact ⟨⟨closed, known⟩, Nat.le_refl _⟩
  | tail walked _ ih =>
    obtain ⟨closed', known'⟩ := closed_visit closed known walked
    have size := visit_size walked
    obtain ⟨ready, grown⟩ := ih closed' known'
    exact ⟨ready, by omega⟩

theorem Calls.ready (calls : Calls source v w) (ready : v.Ready) :
    w.Ready ∧ v.graph.nodes.size ≤ w.graph.nodes.size := by
  obtain ⟨closed, known⟩ := ready
  cases calls with
  | program item => exact item.ready closed (Graph.knows_none _)
  | block item => exact item.ready closed known
  | function entered | consequent entered | body entered =>
    have began := enter_ok entered
    exact ⟨began.closed closed known, by simp only [began.size]; omega⟩
  | alternate entered walked joined =>
    have began := enter_ok entered
    obtain ⟨closed₁, known₁⟩ := began.closed closed known
    obtain ⟨closed₂, known₂⟩ := closed_visit closed₁ known₁ walked
    have size := visit_size walked
    obtain ⟨same, edges⟩ := joinTo_ok joined
    have later := began.size
    have number := began.current
    refine ⟨⟨?_, ?_⟩, by simp only [same]; omega⟩
    · intro e member
      simp only [same]
      rcases (edges e).mp member with old | added
      · exact closed₂ e old
      · obtain ⟨m, handed, rfl⟩ := Edge.mem_toBranch.mp added
        exact ⟨by simp only; omega, known₂ m handed⟩
    · rintro m ⟨⟩
      simp only [same]
      omega

theorem Item.reached {level : Nat} {incoming : Option Nat} {ss : List Statement} {g : Graph}
    (item : Item source level incoming ss g v) {place : Nat × Statement}
    (member : place ∈ v.statement.reached v.level) : place ∈ Statement.reachedAll level ss := by
  induction item with
  | head => exact List.mem_append_left _ member
  | tail _ _ ih => exact List.mem_append_right _ (ih member)

theorem Calls.reached (calls : Calls source v w) {place : Nat × Statement}
    (member : place ∈ w.statement.reached w.level) : place ∈ v.statement.reached v.level := by
  cases calls with
  | program item | block item => exact List.mem_cons_of_mem _ (item.reached member)
  | function _ | body _ => exact List.mem_cons_of_mem _ member
  | @consequent _ _ _ _ _ _ alternate _ _ _ =>
    cases alternate with
    | none => exact List.mem_cons_of_mem _ member
    | some alternate => exact List.mem_cons_of_mem _ (List.mem_append_left _ member)
  | alternate _ _ _ => exact List.mem_cons_of_mem _ (List.mem_append_right _ member)

theorem Reaches.reached (reaches : Reaches source v w) {place : Nat × Statement}
    (member : place ∈ w.statement.reached w.level) : place ∈ v.statement.reached v.level := by
  induction reaches with
  | refl => exact member
  | tail _ calls ih => exact ih (calls.reached member)

/-- All visits of a successful walk succeed. -/
theorem Reaches.ok (reaches : Reaches source v w) {out : Option Nat} {g : Graph}
    (walked : v.outcome source = (.ok out, g)) :
    ∃ out' g', w.outcome source = (.ok out', g') := by
  have fits := (visit_ok_iff.mp walked).1
  exact ⟨_, _, visit_ok_iff.mpr ⟨fun place member => fits place (reaches.reached member), rfl, rfl⟩⟩

theorem Reaches.later (reaches : Reaches source v w) (ready : v.Ready) :
    w.Ready ∧ v.graph.nodes.size ≤ w.graph.nodes.size := by
  induction reaches with
  | refl => exact ⟨ready, Nat.le_refl _⟩
  | tail _ calls ih =>
    obtain ⟨ready', grown⟩ := ih
    obtain ⟨ready'', grown'⟩ := calls.ready ready'
    exact ⟨ready'', Nat.le_trans grown grown'⟩

mutual

/-- A successful visit reaches every statement below its own. -/
theorem reaches_all {source : String} :
    ∀ (s : Statement) {level : Nat} {incoming out : Option Nat} {g g' : Graph},
      (visit source level incoming s).outcome g = (.ok out, g') →
        ∀ place ∈ s.reached level, ∃ w, Reaches source ⟨level, incoming, s, g⟩ w ∧
          (w.level, w.statement) = place
  | .program _ body, _, _, _, _, _, walked, place, member => by
    rcases List.mem_cons.mp member with rfl | below
    · exact ⟨_, .refl, rfl⟩
    · obtain ⟨_, _, guarded, walked⟩ := outcome_bind_ok.mp walked
      cases guardLevel_ok guarded
      obtain ⟨_, w, item, rest, same⟩ := items_reach_all body walked place below
      exact ⟨w, rest.head (.program item), same⟩
  | .block _ body, _, _, _, _, _, walked, place, member => by
    rcases List.mem_cons.mp member with rfl | below
    · exact ⟨_, .refl, rfl⟩
    · obtain ⟨_, _, guarded, walked⟩ := outcome_bind_ok.mp walked
      cases guardLevel_ok guarded
      obtain ⟨_, w, item, rest, same⟩ := items_reach_all body walked place below
      exact ⟨w, rest.head (.block item), same⟩
  | .function _ _ body, _, _, _, _, _, walked, place, member => by
    rcases List.mem_cons.mp member with rfl | below
    · exact ⟨_, .refl, rfl⟩
    · rw [visit_function] at walked
      obtain ⟨_, _, entered, walked⟩ := outcome_bind_ok.mp walked
      obtain ⟨_, _, part, _⟩ := outcome_bind_ok.mp walked
      obtain ⟨w, rest, same⟩ := reaches_all body part place below
      exact ⟨w, rest.head (.function entered), same⟩
  | .conditional _ _ consequent none, _, _, _, _, _, walked, place, member => by
    rcases List.mem_cons.mp member with rfl | below
    · exact ⟨_, .refl, rfl⟩
    · rw [visit_conditional] at walked
      obtain ⟨_, _, entered, walked⟩ := outcome_bind_ok.mp walked
      obtain ⟨_, _, part, _⟩ := outcome_bind_ok.mp walked
      obtain ⟨w, rest, same⟩ := reaches_all consequent part place below
      exact ⟨w, rest.head (.consequent entered), same⟩
  | .conditional _ _ consequent (some alternate), _, _, _, _, _, walked, place, member => by
    rcases List.mem_cons.mp member with rfl | below
    · exact ⟨_, .refl, rfl⟩
    · rw [visit_conditional_else] at walked
      obtain ⟨_, _, entered, walked⟩ := outcome_bind_ok.mp walked
      obtain ⟨_, _, first, walked⟩ := outcome_bind_ok.mp walked
      obtain ⟨_, _, joined, walked⟩ := outcome_bind_ok.mp walked
      obtain ⟨_, _, second, _⟩ := outcome_bind_ok.mp walked
      rcases List.mem_append.mp below with left | right
      · obtain ⟨w, rest, same⟩ := reaches_all consequent first place left
        exact ⟨w, rest.head (.consequent entered), same⟩
      · obtain ⟨w, rest, same⟩ := reaches_all alternate second place right
        exact ⟨w, rest.head (.alternate entered first joined), same⟩
  | .loop _ _ body, _, _, _, _, _, walked, place, member => by
    rcases List.mem_cons.mp member with rfl | below
    · exact ⟨_, .refl, rfl⟩
    · rw [visit_loop] at walked
      obtain ⟨_, _, entered, walked⟩ := outcome_bind_ok.mp walked
      obtain ⟨_, _, part, _⟩ := outcome_bind_ok.mp walked
      obtain ⟨w, rest, same⟩ := reaches_all body part place below
      exact ⟨w, rest.head (.body entered), same⟩
  | .declaration .., _, _, _, _, _, _, _, member | .expression _, _, _, _, _, _, _, _, member
  | .exit .., _, _, _, _, _, _, _, member | .unsupported .., _, _, _, _, _, _, _, member => by
    cases List.mem_singleton.mp member
    exact ⟨_, .refl, rfl⟩

theorem items_reach_all {source : String} :
    ∀ (ss : List Statement) {level : Nat} {incoming out : Option Nat} {g g' : Graph},
      (visitAll source level incoming ss).outcome g = (.ok out, g') →
        ∀ place ∈ Statement.reachedAll level ss, ∃ v w, Item source level incoming ss g v ∧
          Reaches source v w ∧ (w.level, w.statement) = place
  | s :: rest, _, _, _, _, _, walked, place, member => by
    obtain ⟨_, _, first, later⟩ := outcome_bind_ok.mp walked
    rcases List.mem_append.mp member with here | behind
    · obtain ⟨w, reaches, same⟩ := reaches_all s first place here
      exact ⟨_, w, .head, reaches, same⟩
    · obtain ⟨v, w, item, reaches, same⟩ := items_reach_all rest later place behind
      exact ⟨v, w, .tail first item, reaches, same⟩

end

end Visit

end Flowchart.Walk
