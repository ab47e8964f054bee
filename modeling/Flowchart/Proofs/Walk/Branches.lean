import Flowchart.Proofs.Statement.Hollow
import Flowchart.Proofs.Walk.Shape
import Flowchart.Proofs.Walk.Visits

/-! Where the answers of a condition lead. An edge that leaves a condition for an answer ends at a node
of the branch for that answer, except that a hollow branch sends it back to the condition. Without
hollow branches and loops a chart has no cycle. -/
namespace Flowchart

namespace Graph

def Follows (g : Graph) (m n : Nat) : Prop := ∃ branch, ⟨m, n, branch⟩ ∈ g.edges

def Acyclic (g : Graph) : Prop := ∀ n, ¬ Relation.TransGen g.Follows n n

theorem acyclic_empty : Graph.empty.Acyclic := by
  intro n path
  obtain ⟨_, ⟨_, member⟩, _⟩ := Relation.TransGen.head'_iff.mp path
  exact absurd member (Array.not_mem_empty _)

/-- Edges that start at new nodes and lead on close no cycle. -/
theorem Acyclic.extend {g final : Graph} (acyclic : g.Acyclic) (closed : g.Closed)
    (added : ∀ e ∈ final.edges, e ∈ g.edges ∨ (g.nodes.size ≤ e.source ∧ e.source < e.target)) :
    final.Acyclic := by
  -- A path stays among the old nodes, or starts at a new one and leads on from there.
  have split {m n : Nat} (path : Relation.TransGen final.Follows m n) :
      (Relation.TransGen g.Follows m n ∧ n < g.nodes.size) ∨ (g.nodes.size ≤ m ∧ m < n) := by
    induction path with
    | single follows =>
      obtain ⟨branch, member⟩ := follows
      rcases added _ member with old | new
      · exact .inl ⟨.single ⟨branch, old⟩, (closed _ old).2⟩
      · exact .inr new
    | tail _ follows ih =>
      obtain ⟨branch, member⟩ := follows
      rcases added _ member with old | new
      · rcases ih with ⟨path, _⟩ | above
        · exact .inl ⟨path.tail ⟨branch, old⟩, (closed _ old).2⟩
        · have ends := closed _ old
          dsimp only at ends
          omega
      · dsimp only at new
        rcases ih with ⟨_, inside⟩ | above <;> omega
  intro n path
  rcases split path with ⟨old, _⟩ | ⟨_, onward⟩
  · exact acyclic n old
  · exact Nat.lt_irrefl n onward

end Graph

namespace Walk

namespace Visit

variable {source : String} {v w : Visit}

/-- The visit of the branch that a condition has for an answer. -/
inductive Branches (source : String) : Visit → Branch → Visit → Prop
  | consequent {level current : Nat} {incoming : Option Nat} {span test : Span}
    {consequent : Statement} {alternate : Option Statement} {g g' : Graph} :
    (enterCondition source level incoming test).outcome g = (.ok current, g') →
      Branches source ⟨level, incoming, .conditional span test consequent alternate, g⟩ .whenTrue
        ⟨level + 1, some current, consequent, g'⟩
  | alternate {level current : Nat} {incoming out : Option Nat} {span test : Span}
    {consequent alternate : Statement} {g g₁ g₂ g' : Graph} :
    (enterCondition source level incoming test).outcome g = (.ok current, g₁) →
    (visit source (level + 1) (some current) consequent).outcome g₁ = (.ok out, g₂) →
    (joinTo current .whenTrue out).outcome g₂ = (.ok (), g') →
      Branches source ⟨level, incoming, .conditional span test consequent (some alternate), g⟩
        .whenFalse ⟨level + 1, some current, alternate, g'⟩

theorem Branches.calls {answer : Branch} (branches : Branches source v answer w) :
    Calls source v w := by
  cases branches with
  | consequent entered => exact .consequent entered
  | alternate entered first joined => exact .alternate entered first joined

def arrows (v : Visit) : List Edge := v.statement.arrows v.graph.nodes.size v.incoming

def Owns (v : Visit) (m : Nat) : Prop :=
  v.graph.nodes.size ≤ m ∧ m < v.graph.nodes.size + v.statement.size

section Tagged

variable {n size : Nat} {incoming out : Option Nat} {s : Statement} {e : Edge}
  {answer answer' : Branch}

theorem starts_inside (tagged : e.branch.isSome) (lies : e.Lies n size incoming) :
    n ≤ e.source ∧ e.source < n + size := by
  rcases lies.2 with ⟨_, plain⟩ | own
  · rw [plain] at tagged
    cases tagged
  · exact own

theorem not_mem_part (tagged : e.branch.isSome) (before : e.source < n) :
    e ∉ s.arrows n incoming := by
  intro member
  have behind := starts_inside tagged (Statement.arrows_lie n incoming s e member)
  omega

theorem not_mem_toBranch (apart : e.source ≠ n) : e ∉ Edge.toBranch n answer out := by
  intro member
  obtain ⟨m, _, rfl⟩ := Edge.mem_toBranch.mp member
  exact apart rfl

theorem not_mem_other (tag : e.branch = some answer) (different : answer' ≠ answer) :
    e ∉ Edge.toBranch n answer' out := by
  intro member
  obtain ⟨m, _, rfl⟩ := Edge.mem_toBranch.mp member
  exact different (Option.some.inj tag)

/-- The tagged edges of a condition: those of its parts, and its own. -/
theorem mem_conditional {span test : Span} {consequent : Statement} {alternate : Option Statement}
    (tagged : e.branch.isSome) :
    e ∈ (Statement.conditional span test consequent alternate).arrows n incoming ↔
      e ∈ consequent.arrows (n + 1) (some n) ∨
      e ∈ Edge.toBranch n .whenTrue (consequent.last (n + 1) (some n)) ∨
      ∃ b ∈ alternate, e ∈ b.arrows (n + 1 + consequent.size) (some n) ∨
        e ∈ Edge.toBranch n .whenFalse (b.last (n + 1 + consequent.size) (some n)) := by
  have entry : e ∉ Edge.into incoming n := Edge.not_mem_into tagged
  cases alternate with
  | none => simp [Statement.arrows, entry]
  | some alternate => simp [Statement.arrows, entry]

end Tagged

theorem Item.owns {level m : Nat} {incoming : Option Nat} {ss : List Statement} {g : Graph}
    (item : Item source level incoming ss g v) (own : v.Owns m) :
    g.nodes.size ≤ m ∧ m < g.nodes.size + Statement.sizeAll ss := by
  obtain ⟨lower, upper⟩ := own
  induction item with
  | head =>
    rw [Statement.sizeAll_cons]
    dsimp only at lower upper
    omega
  | tail walked _ ih =>
    have inner := ih lower upper
    have size := visit_size walked
    rw [Statement.sizeAll_cons]
    omega

/-- A tagged edge that starts in a visit of a list belongs to the list if it belongs to the visit. -/
theorem Item.arrows {level : Nat} {incoming : Option Nat} {ss : List Statement} {g : Graph}
    (item : Item source level incoming ss g v) {e : Edge} (tagged : e.branch.isSome)
    (own : v.Owns e.source) :
    e ∈ Statement.arrowsAll g.nodes.size incoming ss ↔ e ∈ v.arrows := by
  induction item with
  | @head incoming s rest g =>
    rw [Statement.arrowsAll, List.mem_append]
    refine or_iff_left fun later => ?_
    have behind := starts_inside tagged (Statement.arrowsAll_lie _ _ rest e later)
    have inside := own.2
    dsimp only at inside
    omega
  | @tail incoming out s rest g g' v walked item ih =>
    have size := visit_size walked
    have handed := (visit_ok_iff.mp walked).2.1
    rw [Statement.arrowsAll, List.mem_append, ← size, ← handed, ih own]
    refine or_iff_right fun first => ?_
    have before := starts_inside tagged (Statement.arrows_lie _ incoming s e first)
    have inside := item.owns own
    omega

/-- An alternate begins behind the consequent. -/
theorem alternate_starts {level current : Nat} {incoming out : Option Nat} {test : Span}
    {consequent : Statement} {g g₁ g₂ g' : Graph}
    (entered : (enterCondition source level incoming test).outcome g = (.ok current, g₁))
    (first : (visit source (level + 1) (some current) consequent).outcome g₁ = (.ok out, g₂))
    (joined : (joinTo current .whenTrue out).outcome g₂ = (.ok (), g')) :
    g'.nodes.size = g.nodes.size + 1 + consequent.size ∧ current = g.nodes.size := by
  have began := enter_ok entered
  have grown := visit_size first
  rw [(joinTo_ok joined).1, grown, began.size]
  exact ⟨rfl, began.current⟩

theorem Calls.owns (calls : Calls source v w) {m : Nat} (own : w.Owns m) : v.Owns m := by
  cases calls with
  | program item | block item => exact item.owns own
  | function entered | body entered =>
    have size := (enter_ok entered).size
    obtain ⟨lower, upper⟩ := own
    simp only [Owns, Statement.size_function, Statement.size_loop] at lower upper ⊢
    omega
  | @consequent _ _ _ _ _ _ alternate _ _ entered =>
    have size := (enter_ok entered).size
    obtain ⟨lower, upper⟩ := own
    cases alternate with
    | none =>
      simp only [Owns, Statement.size_conditional_none] at lower upper ⊢
      omega
    | some alternate =>
      simp only [Owns, Statement.size_conditional_some] at lower upper ⊢
      omega
  | alternate entered first joined =>
    have starts := alternate_starts entered first joined
    obtain ⟨lower, upper⟩ := own
    simp only [Owns, Statement.size_conditional_some] at lower upper ⊢
    omega

theorem Calls.arrows (calls : Calls source v w) {e : Edge} (tagged : e.branch.isSome)
    (own : w.Owns e.source) : e ∈ v.arrows ↔ e ∈ w.arrows := by
  cases calls with
  | program item | block item => exact item.arrows tagged own
  | function entered =>
    have began := enter_ok entered
    simp only [Visit.arrows, Statement.arrows, List.mem_append, began.size, began.current]
    exact or_iff_right (Edge.not_mem_into tagged)
  | body entered =>
    have began := enter_ok entered
    simp only [Visit.arrows, Statement.arrows, List.mem_append, began.size, began.current]
    rw [or_iff_left (Edge.not_mem_into tagged), or_iff_right (Edge.not_mem_into tagged)]
  | consequent entered =>
    have began := enter_ok entered
    obtain ⟨lower, upper⟩ := own
    simp only [began.size] at lower upper
    simp only [Visit.arrows, mem_conditional tagged, began.size, began.current]
    refine or_iff_left ?_
    rintro (answer | ⟨b, _, inner | answer⟩)
    · exact not_mem_toBranch (by omega) answer
    · exact not_mem_part tagged upper inner
    · exact not_mem_toBranch (by omega) answer
  | alternate entered first joined =>
    -- Edges of the consequent start before the alternate, and the answers at the condition.
    obtain ⟨start, number⟩ := alternate_starts entered first joined
    obtain ⟨lower, _⟩ := own
    simp only [start] at lower
    simp only [Visit.arrows, mem_conditional tagged, start, number, Option.mem_some_iff,
      exists_eq_left']
    constructor
    · rintro (inner | answer | inner | answer)
      · have before := starts_inside tagged (Statement.arrows_lie _ _ _ e inner)
        omega
      · exact absurd answer (not_mem_toBranch (by omega))
      · exact inner
      · exact absurd answer (not_mem_toBranch (by omega))
    · exact fun inner => .inr (.inr (.inl inner))

/-- The tagged edges that leave the nodes of a visit are the visit's. -/
theorem Reaches.arrows (reaches : Reaches source v w) {e : Edge} (tagged : e.branch.isSome)
    (own : w.Owns e.source) : v.Owns e.source ∧ (e ∈ v.arrows ↔ e ∈ w.arrows) := by
  induction reaches with
  | refl => exact ⟨own, Iff.rfl⟩
  | tail _ calls ih =>
    obtain ⟨owned, same⟩ := ih (calls.owns own)
    exact ⟨owned, same.trans (calls.arrows tagged own)⟩

theorem owns_condition {span test : Span} {consequent : Statement} {alternate : Option Statement}
    (condition : v.statement = .conditional span test consequent alternate) :
    v.Owns v.graph.nodes.size := by
  rw [Owns, condition]
  exact ⟨Nat.le_refl _, Nat.lt_add_of_pos_right (by cases alternate <;> simp)⟩

theorem Branches.owns {answer : Branch} (branches : Branches source v answer w) :
    v.Owns v.graph.nodes.size := by
  cases branches with
  | consequent _ => exact owns_condition rfl
  | alternate _ _ _ => exact owns_condition rfl

theorem Branches.arrows {answer : Branch} (branches : Branches source v answer w) {e : Edge}
    (here : e.source = v.graph.nodes.size) (tag : e.branch = some answer) :
    e ∈ v.arrows ↔ e ∈ Edge.toBranch v.graph.nodes.size answer
      (w.statement.last w.graph.nodes.size (some v.graph.nodes.size)) := by
  have tagged : e.branch.isSome := by rw [tag]; rfl
  cases branches with
  | consequent entered =>
    have began := enter_ok entered
    dsimp only at here
    simp only [Visit.arrows, mem_conditional tagged, began.size]
    rw [or_iff_right (not_mem_part tagged (by omega)), or_iff_left]
    rintro ⟨b, _, inner | answer⟩
    · exact not_mem_part tagged (by omega) inner
    · exact not_mem_other tag (by decide) answer
  | alternate entered first joined =>
    obtain ⟨start, _⟩ := alternate_starts entered first joined
    dsimp only at here
    simp only [Visit.arrows, mem_conditional tagged, start, Option.mem_some_iff, exists_eq_left']
    rw [or_iff_right (not_mem_part tagged (by omega)), or_iff_right (not_mem_other tag (by decide)),
      or_iff_right (not_mem_part tagged (by omega))]

/-- A condition with an edge for an answer has visited the branch for it. -/
theorem exists_branches {level : Nat} {incoming out : Option Nat} {span test : Span}
    {consequent : Statement} {alternate : Option Statement} {g ended : Graph}
    (walked : (visit source level incoming (.conditional span test consequent alternate)).outcome g =
      (.ok out, ended)) {e : Edge} {answer : Branch} (here : e.source = g.nodes.size)
    (tag : e.branch = some answer)
    (member : e ∈ (Statement.conditional span test consequent alternate).arrows g.nodes.size incoming) :
    ∃ w, Branches source ⟨level, incoming, .conditional span test consequent alternate, g⟩ answer w := by
  cases alternate with
  | none =>
    rw [visit_conditional] at walked
    obtain ⟨_, _, entered, _⟩ := outcome_bind_ok.mp walked
    cases answer with
    | whenTrue => exact ⟨_, .consequent entered⟩
    | whenFalse =>
      -- Without an alternate there is no such edge.
      have tagged : e.branch.isSome := by rw [tag]; rfl
      rcases (mem_conditional tagged).mp member with inner | answer | ⟨_, nothing, _⟩
      · exact absurd inner (not_mem_part tagged (by omega))
      · exact absurd answer (not_mem_other tag (by decide))
      · cases nothing
  | some alternate =>
    rw [visit_conditional_else] at walked
    obtain ⟨_, _, entered, walked⟩ := outcome_bind_ok.mp walked
    obtain ⟨_, _, first, walked⟩ := outcome_bind_ok.mp walked
    obtain ⟨_, _, joined, _⟩ := outcome_bind_ok.mp walked
    cases answer with
    | whenTrue => exact ⟨_, .consequent entered⟩
    | whenFalse => exact ⟨_, .alternate entered first joined⟩

end Visit

variable {source : String} {tree : Statement} {g final : Graph} {out : Option Nat}

/-- The tagged edges that leave a visited condition are those that its visit adds. -/
theorem mem_walk_of_reached (closed : g.Closed) (walked : g.walk source tree = (.ok out, final))
    {v : Visit} (reached : Visit.Reaches source ⟨0, none, tree, g⟩ v) {e : Edge}
    (tagged : e.branch.isSome) (own : v.Owns e.source) : e ∈ final.edges ↔ e ∈ v.arrows := by
  obtain ⟨⟨lower, _⟩, same⟩ := reached.arrows tagged own
  rw [mem_visit walked, ← same]
  refine or_iff_right fun old => ?_
  have ends := closed e old
  dsimp only at lower
  omega

theorem shows_walk (walked : g.walk source tree = (.ok out, final)) :
    Shows final.kind? g.nodes.size tree.kinds := by
  have nodes := visit_nodes walked
  have kinds : final.kind? = fun n => (g.nodes.toList.map Node.kind ++ tree.kinds)[n]? := by
    funext n
    rw [Graph.kind?, ← Array.getElem?_toList, nodes, ← Statement.nodes_kind source,
      ← List.map_append, List.getElem?_map]
  rw [kinds]
  have shown := shows_list (g.nodes.toList.map Node.kind) tree.kinds
  rwa [List.length_map, Array.length_toList] at shown

/-- The answers of a condition lead into its branches. An edge that leaves a visited condition for an
answer ends at a node that was added while the branch for that answer was visited, unless the branch
is hollow: then there is such an edge, and it ends at the condition. Without hollow branches no
condition has an edge to itself, and without loops besides the chart has no cycle. -/
theorem answers_lead_into_branches (closed : g.Closed)
    (walked : g.walk source tree = (.ok out, final)) :
    (∀ v span test consequent alternate, Visit.Reaches source ⟨0, none, tree, g⟩ v →
      v.statement = .conditional span test consequent alternate →
      ∀ e ∈ final.edges, ∀ answer, e.source = v.graph.nodes.size → e.branch = some answer →
        ∃ w out' ended, Visit.Branches source v answer w ∧
          w.outcome source = (.ok out', ended) ∧
          if w.statement.isHollow then e.target = e.source
          else w.graph.nodes.size ≤ e.target ∧ e.target < ended.nodes.size) ∧
    (∀ v answer w, Visit.Reaches source ⟨0, none, tree, g⟩ v → Visit.Branches source v answer w →
      w.statement.isHollow →
        ⟨v.graph.nodes.size, v.graph.nodes.size, some answer⟩ ∈ final.edges) ∧
    (tree.Solid →
      (∀ e ∈ final.edges, g.nodes.size ≤ e.source → final.kind? e.source = some .condition →
        e.target ≠ e.source) ∧
      (.loop ∉ tree.kinds → g.Acyclic → final.Acyclic)) := by
  have shown := shows_walk walked
  refine ⟨?_, ?_, fun solid => ⟨?_, ?_⟩⟩
  · intro v span test consequent alternate reached condition e member answer here tag
    have tagged : e.branch.isSome := by rw [tag]; rfl
    obtain ⟨_, _, visited⟩ := reached.ok walked
    have own := Visit.owns_condition condition
    rw [← here] at own
    have inner := (mem_walk_of_reached closed walked reached tagged own).mp member
    obtain ⟨level, incoming, _, g'⟩ := v
    cases condition
    obtain ⟨w, branches⟩ := Visit.exists_branches visited here tag inner
    obtain ⟨out', ended, ok⟩ := Visit.Reaches.ok (reached.tail branches.calls) walked
    have target := Statement.toBranch_target ((branches.arrows here tag).mp inner)
    have size := visit_size ok
    refine ⟨w, out', ended, branches, ok, ?_⟩
    rwa [here, size]
  · intro v answer w reached branches hollow
    rw [mem_walk_of_reached closed walked reached rfl branches.owns, branches.arrows rfl rfl,
      Statement.last_of_hollow _ _ _ hollow]
    exact Edge.mem_toBranch.mpr ⟨_, rfl, rfl⟩
  · intro e member above condition
    rcases (mem_visit walked).mp member with old | new
    · have ends := closed e old
      omega
    · exact solid.leaves g.knows_none shown new condition
  · intro straight acyclic
    refine acyclic.extend closed fun e member => ?_
    refine ((mem_visit walked).mp member).imp_right fun new => ?_
    refine ⟨?_, solid.onward straight g.knows_none shown new⟩
    rcases (Statement.arrows_lie g.nodes.size none tree e new).2 with ⟨given, _⟩ | own
    · cases given
    · exact own.1

/-- The tree of `if (x) y else if (z) w`. -/
def ladder : Statement :=
  .conditional ⟨0, 22⟩ ⟨4, 5⟩ (.expression ⟨7, 8⟩)
    (some (.conditional ⟨14, 22⟩ ⟨18, 19⟩ (.expression ⟨21, 22⟩) none))

def ladderChart : Graph :=
  ⟨#[⟨"if (x)", .condition⟩, ⟨"y", .expression⟩, ⟨"if (z)", .condition⟩, ⟨"w", .expression⟩],
    #[⟨0, 1, none⟩, ⟨0, 1, some .whenTrue⟩, ⟨0, 2, none⟩, ⟨2, 3, none⟩, ⟨2, 3, some .whenTrue⟩,
      ⟨0, 2, some .whenFalse⟩]⟩

theorem ladder_leads_on :
    Graph.empty.Closed ∧
      Graph.empty.walk "if (x) y else if (z) w" ladder = (.ok (some 0), ladderChart) ∧
      ladder.Solid ∧ .loop ∉ ladder.kinds ∧ ladderChart.Acyclic ∧
      (∀ e ∈ ladderChart.edges, ladderChart.kind? e.source = some .condition →
        e.target ≠ e.source) ∧
      ∃ (w : Visit) (ended : Graph),
        Visit.Branches "if (x) y else if (z) w" ⟨0, none, ladder, .empty⟩ .whenFalse w ∧
        w.graph.nodes.size ≤ 2 ∧ 2 < ended.nodes.size := by
  have walked : Graph.empty.walk "if (x) y else if (z) w" ladder = (.ok (some 0), ladderChart) := by
    decide +kernel
  have solid : ladder.Solid := by
    simp [Statement.Solid, ladder, Statement.preorder, Statement.branches, Statement.isHollow]
  have straight : NodeKind.loop ∉ ladder.kinds := by decide
  obtain ⟨lead, _, solidly⟩ := answers_lead_into_branches Graph.closed_empty walked
  obtain ⟨leaves, acyclic⟩ := solidly solid
  refine ⟨Graph.closed_empty, walked, solid, straight, acyclic straight Graph.acyclic_empty,
    fun e member => leaves e member (Nat.zero_le _), ?_⟩
  obtain ⟨w, _, ended, branches, _, target⟩ := lead ⟨0, none, ladder, .empty⟩ _ _ _ _ .refl rfl
    ⟨0, 2, some .whenFalse⟩ (by simp [ladderChart]) .whenFalse rfl rfl
  refine ⟨w, ended, branches, ?_⟩
  cases branches
  exact target

/-- The tree of `if (x) a; else {}`. -/
def emptyElse : Statement :=
  .program ⟨0, 17⟩
    [.conditional ⟨0, 17⟩ ⟨4, 5⟩ (.expression ⟨7, 9⟩) (some (.block ⟨15, 17⟩ []))]

def emptyElseChart : Graph :=
  ⟨#[⟨"if (x)", .condition⟩, ⟨"a;", .expression⟩],
    #[⟨0, 1, none⟩, ⟨0, 1, some .whenTrue⟩, ⟨0, 0, some .whenFalse⟩]⟩

/-- An empty branch answers with the condition itself, which makes a cycle without a loop. -/
theorem emptyElse_answers_itself :
    Graph.empty.walk "if (x) a; else {}" emptyElse = (.ok (some 0), emptyElseChart) ∧
      .loop ∉ emptyElse.kinds ∧ emptyElseChart.kind? 0 = some .condition ∧
      ⟨0, 0, some .whenFalse⟩ ∈ emptyElseChart.edges ∧ ¬ emptyElseChart.Acyclic := by
  have member : ⟨0, 0, some .whenFalse⟩ ∈ emptyElseChart.edges := by simp [emptyElseChart]
  refine ⟨by decide +kernel, by decide, rfl, member, fun acyclic => ?_⟩
  exact acyclic 0 (.single ⟨_, member⟩)

end Walk

end Flowchart
