import Flowchart.Proofs.Walk.Visits

/-! Functions, conditions and loops are regions of a chart: nothing outside is joined to what lies
behind their own node. -/
namespace Flowchart

/-- A number that is not behind the first of a region. -/
def Outside (c stop m : Nat) : Prop := m ≤ c ∨ stop ≤ m

/-- An edge that touches nothing behind the first node of a region. -/
def Edge.Avoids (c stop : Nat) (e : Edge) : Prop :=
  Outside c stop e.source ∧ Outside c stop e.target

/-- A part of a graph that is entered and left through its first node only. Of the edges to that
node at most one comes from behind it, and that is the way back of a loop. -/
structure Region (c stop : Nat) (g : Graph) : Prop where
  leaving : ∀ e ∈ g.edges, c < e.source → e.source < stop → c ≤ e.target ∧ e.target < stop
  entering : ∀ e ∈ g.edges, c < e.target → e.target < stop → c ≤ e.source ∧ e.source < stop
  back : ∀ e ∈ g.edges, c < e.source → e.source < stop → e.target = c →
    g.nodes[c]?.map Node.kind = some .loop ∧ e.branch = none
  once : g.edges.toList.countP (fun e => c < e.source ∧ e.source < stop ∧ e.target = c) ≤ 1

namespace Statement

variable {n n' : Nat} {incoming : Option Nat} {s : Statement} {e : Edge}

/-- Statements with a node of their own and parts behind it. -/
def IsCompound : Statement → Prop
  | function .. | conditional .. | loop .. => True
  | program .. | block .. | declaration .. | expression _ | exit .. | unsupported .. => False

theorem part_edge (behind : n < n') (member : e ∈ s.arrows n' (some n)) :
    n ≤ e.source ∧ n < e.target := by
  obtain ⟨target, ⟨given, _⟩ | own⟩ := arrows_lie n' (some n) s e member
  · cases given
    omega
  · omega

theorem branch_edge {out : Option Nat} {answer : Branch} (member : e ∈ Edge.toBranch n answer out) :
    e.source = n := by
  obtain ⟨m, _, rfl⟩ := Edge.mem_toBranch.mp member
  rfl

/-- Only the entry of a compound statement comes from before it, and only a loop is led back to. -/
theorem compound_edge (compound : s.IsCompound) (member : e ∈ s.arrows n incoming) :
    e ∈ Edge.into incoming n ∨
      (n ≤ e.source ∧
        (n < e.source → e.target = n → s.nodeKind? = some .loop ∧ e.branch = none)) := by
  cases s with
  | program _ _ | block _ _ | declaration _ _ | expression _ | exit _ _ | unsupported _ _ =>
    cases compound
  | function _ _ body =>
    rcases List.mem_append.mp member with entry | inner
    · exact .inl entry
    · have := part_edge (Nat.lt_succ_self n) inner
      exact .inr ⟨this.1, by omega⟩
  | conditional _ _ consequent alternate =>
    cases alternate with
    | none =>
      simp only [arrows, List.mem_append] at member
      obtain (entry | inner) | branch := member
      · exact .inl entry
      · have := part_edge (Nat.lt_succ_self n) inner
        exact .inr ⟨this.1, by omega⟩
      · have := branch_edge branch
        exact .inr ⟨by omega, by omega⟩
    | some alternate =>
      simp only [arrows, List.mem_append] at member
      obtain (((entry | inner) | branch) | inner) | branch := member
      · exact .inl entry
      · have := part_edge (Nat.lt_succ_self n) inner
        exact .inr ⟨this.1, by omega⟩
      · have := branch_edge branch
        exact .inr ⟨by omega, by omega⟩
      · have := part_edge (by omega : n < n + 1 + consequent.size) inner
        exact .inr ⟨this.1, by omega⟩
      · have := branch_edge branch
        exact .inr ⟨by omega, by omega⟩
  | loop _ _ body =>
    simp only [arrows, List.mem_append] at member
    obtain (entry | inner) | back := member
    · exact .inl entry
    · have := part_edge (Nat.lt_succ_self n) inner
      exact .inr ⟨this.1, by omega⟩
    · obtain ⟨m, out, rfl⟩ := Edge.mem_into.mp back
      exact .inr ⟨(last_part (Nat.lt_succ_self n) out).1, fun _ _ => ⟨rfl, rfl⟩⟩

theorem IsCompound.last_eq (compound : s.IsCompound) : s.last n incoming = some n := by
  cases s with
  | function _ _ _ | conditional _ _ _ _ | loop _ _ _ => rfl
  | _ => cases compound

theorem IsCompound.node (compound : s.IsCompound) (source : String) :
    ∃ node, s.node? source = some node := by
  cases s with
  | function _ _ _ | conditional _ _ _ _ | loop _ _ _ => exact ⟨_, rfl⟩
  | _ => cases compound

end Statement

namespace Walk

/-- A graph that holds a finished region with the graph `inner` at its end. Whatever was added since
then avoids the region, and so does the node that flows on. -/
structure Sealed (c stop : Nat) (inner : Graph) (out : Option Nat) (g : Graph) : Prop where
  grown : stop ≤ g.nodes.size
  nodes : inner.nodes.toList <+: g.nodes.toList
  edges : ∀ e ∈ g.edges, e ∈ inner.edges ∨ e.Avoids c stop
  out : ∀ m, out = some m → Outside c stop m

namespace Sealed

variable {source : String} {level c stop : Nat} {inner g g' : Graph} {out out' : Option Nat}

theorem start (c : Nat) (inner : Graph) : Sealed c inner.nodes.size inner (some c) inner := by
  refine ⟨Nat.le_refl _, List.prefix_refl _, fun e => .inl, ?_⟩
  rintro _ ⟨⟩
  exact .inl (Nat.le_refl c)

/-- A walk that goes on from a sealed region leaves it alone. -/
theorem visit (isSealed : Sealed c stop inner out g) {s : Statement}
    (walked : (visit source level out s).outcome g = (.ok out', g')) :
    Sealed c stop inner out' g' := by
  have grown := isSealed.grown
  have size := visit_size walked
  obtain ⟨_, handed, after⟩ := visit_ok_iff.mp walked
  refine ⟨by omega, ?_, ?_, ?_⟩
  · rw [after, nodes_after]
    exact isSealed.nodes.trans (List.prefix_append _ _)
  · intro e member
    rcases (mem_visit walked).mp member with old | added
    · exact isSealed.edges e old
    · obtain ⟨target, ⟨given, _⟩ | own⟩ := Statement.arrows_lie g.nodes.size out s e added
      · exact .inr ⟨isSealed.out _ given, .inr (by omega)⟩
      · exact .inr ⟨.inr (by omega), .inr (by omega)⟩
  · intro m last
    rw [handed] at last
    rcases Statement.last_within g.nodes.size out s m last with given | own
    · exact isSealed.out m given
    · exact .inr (by omega)

theorem visitAll (isSealed : Sealed c stop inner out g) {ss : List Statement}
    (walked : (visitAll source level out ss).outcome g = (.ok out', g')) :
    Sealed c stop inner out' g' := by
  induction ss generalizing out g with
  | nil =>
    cases walked
    exact isSealed
  | cons s rest ih =>
    obtain ⟨middle, g₁, first, later⟩ := outcome_bind_ok.mp walked
    exact ih (isSealed.visit first) later

theorem hand (isSealed : Sealed c stop inner out g) {m : Nat} (outside : Outside c stop m) :
    Sealed c stop inner (some m) g := by
  refine ⟨isSealed.grown, isSealed.nodes, isSealed.edges, ?_⟩
  rintro _ ⟨⟩
  exact outside

theorem addEdge (isSealed : Sealed c stop inner out g) {left right : Nat} {branch : Option Branch}
    (first : Outside c stop left) (second : Outside c stop right) :
    Sealed c stop inner out (g.addEdge left right branch) := by
  refine ⟨?_, ?_, ?_, isSealed.out⟩
  · rw [Graph.nodes_addEdge]
    exact isSealed.grown
  · rw [Graph.nodes_addEdge]
    exact isSealed.nodes
  · intro e member
    rcases Graph.mem_addEdge.mp member with old | rfl
    · exact isSealed.edges e old
    · exact .inr ⟨first, second⟩

theorem joinTo (isSealed : Sealed c stop inner out g) {current : Nat} {branch : Branch}
    (outside : Outside c stop current)
    (joined : (joinTo current branch out).outcome g = (.ok (), g')) :
    Sealed c stop inner (some current) g' := by
  cases out with
  | none =>
    cases joined
    exact isSealed.hand outside
  | some last =>
    cases joined
    exact (isSealed.addEdge outside (isSealed.out last rfl)).hand outside

theorem loopBack (isSealed : Sealed c stop inner out g) {current : Nat}
    (outside : Outside c stop current)
    (joined : (loopBack current out).outcome g = (.ok (), g')) :
    Sealed c stop inner (some current) g' := by
  cases out with
  | none =>
    cases joined
    exact isSealed.hand outside
  | some last =>
    cases joined
    exact (isSealed.addEdge (isSealed.out last rfl) outside).hand outside

end Sealed

namespace Visit

variable {source : String} {v w : Visit} {c stop : Nat} {inner : Graph}

/-- However a visit ends, if it ends well, a region is sealed in its graph. -/
def Seals (source : String) (c stop : Nat) (inner : Graph) (v : Visit) : Prop :=
  ∀ out g', v.outcome source = (.ok out, g') → Sealed c stop inner out g'

theorem Item.sealed {level : Nat} {incoming : Option Nat} {ss : List Statement} {g : Graph}
    (item : Item source level incoming ss g v) (seals : v.Seals source c stop inner)
    {out : Option Nat} {g' : Graph}
    (walked : (visitAll source level incoming ss).outcome g = (.ok out, g')) :
    Sealed c stop inner out g' := by
  induction item with
  | head =>
    obtain ⟨middle, g₁, first, later⟩ := outcome_bind_ok.mp walked
    exact (seals middle g₁ first).visitAll later
  | tail first _ ih =>
    obtain ⟨middle, g₁, again, later⟩ := outcome_bind_ok.mp walked
    cases first.symm.trans again
    exact ih seals later

/-- A region that is sealed after a visit is sealed after the visit that made it. -/
theorem Calls.seals (calls : Calls source v w) (behind : w.graph.nodes.size ≤ c)
    (seals : w.Seals source c stop inner) : v.Seals source c stop inner := by
  intro out g' walked
  cases calls with
  | program item | block item =>
    obtain ⟨_, g₁, guarded, walked⟩ := outcome_bind_ok.mp walked
    cases guardLevel_ok guarded
    exact item.sealed seals walked
  | function entered =>
    have outside : Outside c stop _ := .inl (enter_outside entered behind)
    rw [Visit.outcome, visit_function] at walked
    obtain ⟨_, _, again, walked⟩ := outcome_bind_ok.mp walked
    cases entered.symm.trans again
    obtain ⟨_, _, part, walked⟩ := outcome_bind_ok.mp walked
    cases walked
    exact (seals _ _ part).hand outside
  | @consequent _ _ _ _ _ _ alternate _ _ entered =>
    have outside : Outside c stop _ := .inl (enter_outside entered behind)
    cases alternate with
    | none =>
      rw [Visit.outcome, visit_conditional] at walked
      obtain ⟨_, _, again, walked⟩ := outcome_bind_ok.mp walked
      cases entered.symm.trans again
      obtain ⟨_, _, part, walked⟩ := outcome_bind_ok.mp walked
      obtain ⟨_, _, joined, walked⟩ := outcome_bind_ok.mp walked
      cases walked
      exact (seals _ _ part).joinTo outside joined
    | some alternate =>
      rw [Visit.outcome, visit_conditional_else] at walked
      obtain ⟨_, _, again, walked⟩ := outcome_bind_ok.mp walked
      cases entered.symm.trans again
      obtain ⟨_, _, part, walked⟩ := outcome_bind_ok.mp walked
      obtain ⟨_, _, joined, walked⟩ := outcome_bind_ok.mp walked
      obtain ⟨_, _, other, walked⟩ := outcome_bind_ok.mp walked
      obtain ⟨_, _, joined', walked⟩ := outcome_bind_ok.mp walked
      cases walked
      exact (((seals _ _ part).joinTo outside joined).visit other).joinTo outside joined'
  | alternate entered first joined =>
    have size := visit_size first
    have same := congrArg Array.size (joinTo_ok joined).1
    simp only at behind
    have outside : Outside c stop _ := .inl (enter_outside entered (by omega))
    rw [Visit.outcome, visit_conditional_else] at walked
    obtain ⟨_, _, again, walked⟩ := outcome_bind_ok.mp walked
    cases entered.symm.trans again
    obtain ⟨_, _, first', walked⟩ := outcome_bind_ok.mp walked
    cases first.symm.trans first'
    obtain ⟨_, _, joined', walked⟩ := outcome_bind_ok.mp walked
    cases joined.symm.trans joined'
    obtain ⟨_, _, part, walked⟩ := outcome_bind_ok.mp walked
    obtain ⟨_, _, joined, walked⟩ := outcome_bind_ok.mp walked
    cases walked
    exact (seals _ _ part).joinTo outside joined
  | body entered =>
    have outside : Outside c stop _ := .inl (enter_outside entered behind)
    rw [Visit.outcome, visit_loop] at walked
    obtain ⟨_, _, again, walked⟩ := outcome_bind_ok.mp walked
    cases entered.symm.trans again
    obtain ⟨_, _, part, walked⟩ := outcome_bind_ok.mp walked
    obtain ⟨_, _, joined, walked⟩ := outcome_bind_ok.mp walked
    cases walked
    exact (seals _ _ part).loopBack outside joined

theorem Reaches.seals (reaches : Reaches source v w) (ready : v.Ready)
    (behind : w.graph.nodes.size ≤ c) (seals : w.Seals source c stop inner) :
    v.Seals source c stop inner := by
  induction reaches using Relation.ReflTransGen.head_induction_on with
  | refl => exact seals
  | head calls rest ih =>
    obtain ⟨ready', _⟩ := calls.ready ready
    have later := Reaches.later rest ready'
    exact calls.seals (Nat.le_trans later.2 behind) (ih ready')

end Visit

/-- The node of a sealed statement stays where it was placed. -/
theorem Sealed.placed {source : String} {v : Visit} {c stop : Nat} {ended final : Graph}
    {out out' : Option Nat} {node : Node} (isSealed : Sealed c stop ended out final)
    (visited : v.outcome source = (.ok out', ended))
    (named : v.statement.node? source = some node) :
    final.nodes[v.graph.nodes.size]? = some node ∧ v.graph.nodes.size < ended.nodes.size := by
  obtain ⟨rest, nodes⟩ := Statement.nodes_head named
  constructor
  · obtain ⟨later, order⟩ := isSealed.nodes
    rw [visit_nodes visited, nodes] at order
    rw [← Array.getElem?_toList, ← order]
    simp
  · rw [visit_size visited, ← Statement.nodes_length source, nodes]
    exact Nat.lt_add_of_pos_right (Nat.succ_pos _)

/-- An edge that touches a sealed region was added by the visit of its statement, behind the entry
of the region. -/
theorem Sealed.touching {source : String} {v : Visit} {ended final : Graph}
    {out out' : Option Nat} (ready : v.Ready) (compound : v.statement.IsCompound)
    (visited : v.outcome source = (.ok out', ended))
    (isSealed : Sealed v.graph.nodes.size ended.nodes.size ended out final) {e : Edge}
    (member : e ∈ final.edges) (touches : ¬ e.Avoids v.graph.nodes.size ended.nodes.size) :
    (v.graph.nodes.size ≤ e.source ∧ e.source < ended.nodes.size) ∧
      (v.graph.nodes.size ≤ e.target ∧ e.target < ended.nodes.size) ∧
      (v.graph.nodes.size < e.source → e.target = v.graph.nodes.size →
        v.statement.nodeKind? = some .loop ∧ e.branch = none) := by
  have size := visit_size visited
  have inner : e ∈ ended.edges := (isSealed.edges e member).resolve_right touches
  rcases (mem_visit visited).mp inner with old | added
  · have ends := ready.1 e old
    exact absurd ⟨.inl (by omega), .inl (by omega)⟩ touches
  · obtain ⟨target, lies⟩ := Statement.arrows_lie _ _ _ e added
    rcases Statement.compound_edge compound added with entry | ⟨own, back⟩
    · obtain ⟨m, given, rfl⟩ := Edge.mem_into.mp entry
      have before := ready.2 m given
      exact absurd ⟨.inl (by simp only; omega), .inl (Nat.le_refl _)⟩ touches
    · refine ⟨⟨own, ?_⟩, by omega, back⟩
      rcases lies with ⟨given, _⟩ | bounded
      · have before := ready.2 _ given
        omega
      · omega

theorem once_back {source : String} {level c stop : Nat} {incoming out : Option Nat}
    {tree : Statement} {g final : Graph} (closed : g.Closed) (known : g.Knows incoming)
    (walked : (visit source level incoming tree).outcome g = (.ok out, final))
    (began : g.nodes.size ≤ c)
    (plain : ∀ e ∈ final.edges, c < e.source → e.source < stop → e.target = c → e.branch = none) :
    final.edges.toList.countP (fun e => c < e.source ∧ e.source < stop ∧ e.target = c) ≤ 1 := by
  have member {e : Edge} := mem_visit walked (e := e)
  obtain ⟨_, _, rfl⟩ := visit_ok_iff.mp walked
  have old : g.edges.toList.countP (fun e => c < e.source ∧ e.source < stop ∧ e.target = c) = 0 := by
    rw [List.countP_eq_zero]
    intro e old
    have ends := closed e (Array.mem_toList_iff.mp old)
    simp only [decide_eq_true_eq]
    omega
  rw [plan_adds closed known, List.countP_append, old, Nat.zero_add]
  refine Nat.le_trans (List.countP_mono_left ?_)
    (Statement.count_slot_le_one known tree (.back c))
  intro e added
  simp only [decide_eq_true_eq]
  rintro ⟨above, below, rfl⟩
  have untagged := plain e (member.mpr (.inr added)) above below rfl
  simp only [Edge.slot, untagged, if_neg (Nat.lt_asymm above)]

/-- In the chart of a script the nodes of a function, a condition or a loop form a region. -/
theorem compound_region {source : String} {tree : Statement} {g final : Graph} {out : Option Nat}
    (closed : g.Closed) (walked : g.walk source tree = (.ok out, final)) {v : Visit}
    (reached : Visit.Reaches source ⟨0, none, tree, g⟩ v) (compound : v.statement.IsCompound) :
    ∃ ended : Graph, v.outcome source = (.ok (some v.graph.nodes.size), ended) ∧
      v.graph.nodes.size < ended.nodes.size ∧ ended.nodes.size ≤ final.nodes.size ∧
      (v.statement.node? source).isSome ∧
      final.nodes[v.graph.nodes.size]? = v.statement.node? source ∧
      Region v.graph.nodes.size ended.nodes.size final := by
  have ready : (⟨0, none, tree, g⟩ : Visit).Ready := ⟨closed, g.knows_none⟩
  obtain ⟨here, began⟩ := reached.later ready
  obtain ⟨out', ended, visited⟩ := reached.ok walked
  have answered : out' = some v.graph.nodes.size :=
    (visit_ok_iff.mp visited).2.1.trans compound.last_eq
  subst answered
  have isSealed : Sealed v.graph.nodes.size ended.nodes.size ended out final := by
    refine reached.seals ready (Nat.le_refl _) ?_ out final walked
    intro _ _ again
    cases visited.symm.trans again
    exact .start _ ended
  obtain ⟨node, named⟩ := compound.node source
  obtain ⟨placed, grown⟩ := isSealed.placed visited named
  have touching {e : Edge} (member : e ∈ final.edges) := isSealed.touching here compound visited member
  have back : ∀ e ∈ final.edges, v.graph.nodes.size < e.source → e.source < ended.nodes.size →
      e.target = v.graph.nodes.size →
        final.nodes[v.graph.nodes.size]?.map Node.kind = some .loop ∧ e.branch = none := by
    intro e member above below target
    have inside := touching member fun avoids => by
      rcases avoids.1 with low | high <;> omega
    obtain ⟨loop, plain⟩ := inside.2.2 above target
    rw [Statement.node?, loop] at named
    cases named
    exact ⟨by rw [placed]; rfl, plain⟩
  refine ⟨ended, visited, grown, isSealed.grown, by rw [named]; rfl, placed.trans named.symm, ?_⟩
  refine ⟨?_, ?_, back, ?_⟩
  · intro e member above below
    exact (touching member fun avoids => by rcases avoids.1 with low | high <;> omega).2.1
  · intro e member above below
    exact (touching member fun avoids => by rcases avoids.2 with low | high <;> omega).1
  · exact once_back closed g.knows_none walked began fun e member above below target =>
      (back e member above below target).2

/-- The chart of `if (x) {} else while (y) z`. -/
def elseChart : Graph :=
  ⟨#[⟨"if (x)", .condition⟩, ⟨"while (y)", .loop⟩, ⟨"z", .expression⟩],
    #[⟨0, 0, some .whenTrue⟩, ⟨0, 1, none⟩, ⟨1, 2, none⟩, ⟨2, 1, none⟩, ⟨0, 1, some .whenFalse⟩]⟩

def elseVisit : Visit :=
  ⟨1, some 0, .loop ⟨15, 26⟩ ⟨22, 23⟩ (.expression ⟨25, 26⟩),
    ⟨#[⟨"if (x)", .condition⟩], #[⟨0, 0, some .whenTrue⟩]⟩⟩

def elsePart : Graph :=
  ⟨#[⟨"if (x)", .condition⟩, ⟨"while (y)", .loop⟩, ⟨"z", .expression⟩],
    #[⟨0, 0, some .whenTrue⟩, ⟨0, 1, none⟩, ⟨1, 2, none⟩, ⟨2, 1, none⟩]⟩

theorem else_region :
    Graph.empty.Closed ∧
      Graph.empty.walk "if (x) {} else while (y) z" choice = (.ok (some 0), elseChart) ∧
      Visit.Reaches "if (x) {} else while (y) z" ⟨0, none, choice, .empty⟩ elseVisit ∧
      elseVisit.statement.IsCompound ∧ Region 1 3 elseChart := by
  have walked : Graph.empty.walk "if (x) {} else while (y) z" choice =
      (.ok (some 0), elseChart) := by decide +kernel
  have entered : (enterCondition "if (x) {} else while (y) z" 0 none ⟨4, 5⟩).outcome .empty =
      (.ok 0, ⟨#[⟨"if (x)", .condition⟩], #[]⟩) := by decide +kernel
  have first : (visit "if (x) {} else while (y) z" 1 (some 0) (.block ⟨7, 9⟩ [])).outcome
      ⟨#[⟨"if (x)", .condition⟩], #[]⟩ = (.ok (some 0), ⟨#[⟨"if (x)", .condition⟩], #[]⟩) := by decide +kernel
  have reached : Visit.Reaches "if (x) {} else while (y) z" ⟨0, none, choice, .empty⟩ elseVisit :=
    .single (.alternate entered first (by decide +kernel))
  have visited : elseVisit.outcome "if (x) {} else while (y) z" = (.ok (some 1), elsePart) := by decide +kernel
  obtain ⟨ended, visited', _, _, _, _, region⟩ :=
    compound_region Graph.closed_empty walked reached trivial
  cases visited.symm.trans visited'
  exact ⟨Graph.closed_empty, walked, reached, trivial, region⟩

end Walk

end Flowchart
