import Flowchart.Proofs.Walk.Braces
import Flowchart.Proofs.Walk.Branches

/-! Unsupported statements. One in a list cuts it in two: what stands behind it is walked as if nothing
flowed in, and a body that ends with one is not led back to its loop. -/
namespace Flowchart

namespace Statement

/-- A program or a block, and the statements between its ends. -/
inductive Lists : Statement → List Statement → Prop
  | program {span : Span} {items : List Statement} : Lists (program span items) items
  | block {span : Span} {items : List Statement} : Lists (block span items) items

/-- The node that flows into the first of the statements listed. A program begins anew. -/
def handed (incoming : Option Nat) : Statement → Option Nat
  | program .. => none
  | function .. | block .. | declaration .. | conditional .. | loop .. | expression _ | exit ..
  | unsupported .. => incoming

variable {n : Nat} {incoming : Option Nat} {s t : Statement} {ss items : List Statement} {e : Edge}

theorem lastAll_append (ss ts : List Statement) :
    lastAll n incoming (ss ++ ts) = lastAll (n + sizeAll ss) (lastAll n incoming ss) ts := by
  induction ss generalizing n incoming with
  | nil => rfl
  | cons s rest ih => simp [lastAll, ih, Nat.add_assoc]

theorem Lists.last_eq_none {span : Span} {kind : String}
    (listed : t.Lists (items ++ [.unsupported span kind])) : t.last n incoming = none := by
  cases listed with
  | program | block =>
    rw [last, lastAll_append]
    rfl

theorem slot_inside (before : ∀ m, incoming = some m → m < n) (member : e ∈ s.arrows n incoming) :
    n ≤ e.slot.node ∧ e.slot.node < n + s.size :=
  (arrows_places n incoming before s).inside _ (List.mem_map_of_mem member)

theorem slotAll_inside (before : ∀ m, incoming = some m → m < n)
    (member : e ∈ arrowsAll n incoming ss) :
    n ≤ e.slot.node ∧ e.slot.node < n + sizeAll ss :=
  (arrowsAll_places n incoming before ss).inside _ (List.mem_map_of_mem member)

end Statement

section Slot

variable {out : Option Nat} {n : Nat} {answer : Branch} {e : Edge}

theorem Edge.not_mem_into_of_node (apart : e.slot.node ≠ n) : e ∉ Edge.into out n := by
  intro member
  obtain ⟨m, _, rfl⟩ := Edge.mem_into.mp member
  by_cases onward : m < n <;> simp [Edge.slot, Slot.node, onward] at apart

theorem Edge.not_mem_toBranch_of_node (apart : e.slot.node ≠ n) :
    e ∉ Edge.toBranch n answer out := by
  intro member
  obtain ⟨m, _, rfl⟩ := Edge.mem_toBranch.mp member
  exact apart rfl

end Slot

namespace Walk

variable {source : String} {level : Nat} {incoming out : Option Nat} {g g' : Graph} {e : Edge}

/-- Also a walk that fails has added none but its own edges. -/
theorem Makes.mem_edges {α : Type} {w : Walk α} {steps : List Step} {a : α}
    (makes : Makes source w g steps a) (member : e ∈ (w.outcome g).2.edges) :
    e ∈ g.edges ∨ e ∈ steps.filterMap Step.edge? := by
  rw [makes] at member
  refine (Graph.mem_edges_after.mp member).imp_right fun added => ?_
  exact ((List.takeWhile_sublist _).filterMap Step.edge?).subset added

section Cut

variable {span : Span} {kind : String} {t : Statement} {before after items : List Statement}

theorem guardLevel_eq (shallow : level < walkLimit) : guardLevel level = pure () :=
  if_neg (Nat.not_le.mpr shallow)

theorem visit_unsupported (shallow : level < walkLimit) :
    visit source level incoming (.unsupported span kind) = pure none := by
  simp [visit, guardLevel_eq shallow]

theorem visitAll_cut (shallow : level < walkLimit) :
    visitAll source level incoming (before ++ .unsupported span kind :: after) =
      visitAll source level incoming before >>= fun _ => visitAll source level none after := by
  simp [visitAll_append, visitAll, visit_unsupported shallow]

theorem visit_list (listed : t.Lists items) (shallow : level < walkLimit) :
    visit source level incoming t = visitAll source (level + 1) (t.handed incoming) items := by
  cases listed with
  | program | block => simp [visit, guardLevel_eq shallow, Statement.handed]

theorem visitAll_size (walked : (visitAll source level incoming before).outcome g = (.ok out, g')) :
    g'.nodes.size = g.nodes.size + Statement.sizeAll before := by
  induction before generalizing incoming g with
  | nil =>
    cases walked
    rfl
  | cons s rest ih =>
    obtain ⟨middle, g₁, first, later⟩ := outcome_bind_ok.mp walked
    rw [ih later, visit_size first, Statement.sizeAll_cons, Nat.add_assoc]

theorem visitAll_apart (member : e ∈ ((visitAll source level none after).outcome g).2.edges) :
    e ∈ g.edges ∨ (g.nodes.size ≤ e.source ∧ g.nodes.size ≤ e.target) := by
  have makes : Makes source (visitAll source level none after) g _ _ := visitAll_makes after rfl
  refine (makes.mem_edges member).imp_right fun added => ?_
  rw [planAll_edges] at added
  obtain ⟨target, ⟨given, _⟩ | own⟩ := Statement.arrowsAll_lie _ _ after e added
  · cases given
  · omega

theorem visitAll_within (known : g.Knows incoming)
    (walked : (visitAll source level incoming before).outcome g = (.ok out, g'))
    (member : e ∈ g'.edges) (added : e ∉ g.edges) :
    e.source < g'.nodes.size ∧ e.target < g'.nodes.size := by
  have makes : Makes source (visitAll source level incoming before) g _ _ := visitAll_makes before rfl
  have size := visitAll_size walked
  obtain ⟨_, _, rfl⟩ := makes.ok_iff.mp walked
  have arrow := (Graph.mem_edges_after.mp member).resolve_left added
  rw [planAll_edges] at arrow
  obtain ⟨target, ⟨given, _⟩ | own⟩ := Statement.arrowsAll_lie _ _ before e arrow
  · have here := known _ given
    omega
  · omega

theorem visitAll_hollow (hollow : Statement.allHollow after)
    (walked : ((visitAll source level none after).outcome g).1 = .ok out) : out = none := by
  have makes : Makes source (visitAll source level none after) g _ _ := visitAll_makes after rfl
  obtain ⟨_, rfl, _⟩ := makes.ok_iff.mp (Prod.ext walked rfl)
  exact Statement.lastAll_of_hollow _ none after hollow

theorem visitAll_empty (shallow : level < walkLimit)
    (empty : ∀ item ∈ after, ∃ span, item = .block span []) :
    visitAll source level incoming after = pure incoming := by
  induction after with
  | nil => rfl
  | cons item rest ih =>
    obtain ⟨⟨span, rfl⟩, others⟩ := List.forall_mem_cons.mp empty
    simp [visitAll, visit, guardLevel_eq shallow, ih others]

end Cut

namespace Visit

variable {v w : Visit}

theorem Item.knows {ss : List Statement} (item : Item source level incoming ss g v)
    (known : g.Knows incoming) : v.graph.Knows v.incoming := by
  induction item with
  | head => exact known
  | tail walked _ ih =>
    refine ih fun m handed => ?_
    rw [(visit_ok_iff.mp walked).2.1] at handed
    rw [visit_size walked]
    exact Statement.last_before known m handed

theorem Calls.knows (calls : Calls source v w) (known : v.graph.Knows v.incoming) :
    w.graph.Knows w.incoming := by
  cases calls with
  | program item => exact item.knows (Graph.knows_none _)
  | block item => exact item.knows known
  | function entered | consequent entered | body entered =>
    have began := enter_ok entered
    rintro m ⟨⟩
    rw [began.size, began.current]
    exact Nat.lt_succ_self _
  | alternate entered first joined =>
    obtain ⟨start, number⟩ := alternate_starts entered first joined
    rintro m ⟨⟩
    rw [start, number]
    omega

theorem Reaches.knows (reaches : Reaches source v w) (known : v.graph.Knows v.incoming) :
    w.graph.Knows w.incoming := by
  induction reaches with
  | refl => exact known
  | tail _ calls ih => exact calls.knows ih

theorem Item.slots {ss : List Statement} (item : Item source level incoming ss g v)
    (known : g.Knows incoming) (own : v.Owns e.slot.node)
    (member : e ∈ Statement.arrowsAll g.nodes.size incoming ss) : e ∈ v.arrows := by
  induction item with
  | @head incoming s rest g =>
    rcases List.mem_append.mp member with here | later
    · exact here
    · have behind := Statement.slotAll_inside (Statement.last_before known) later
      have inside := own.2
      dsimp only at inside
      omega
  | @tail incoming out s rest g g' v walked item ih =>
    have size := visit_size walked
    have handed := (visit_ok_iff.mp walked).2.1
    rcases List.mem_append.mp member with first | later
    · have before := Statement.slot_inside known first
      have inside := item.owns own
      omega
    · rw [← size, ← handed] at later
      refine ih ?_ own later
      rw [handed]
      intro m last
      rw [size]
      exact Statement.last_before known m last

/-- An edge that takes a place at a node of an inner visit belongs to the inner visit. -/
theorem Calls.slots (calls : Calls source v w) (known : v.graph.Knows v.incoming)
    (own : w.Owns e.slot.node) (member : e ∈ v.arrows) : e ∈ w.arrows := by
  obtain ⟨behind, before⟩ := own
  -- All other edges have their places at the visit's own node or in its other part.
  cases calls with
  | program item => exact item.slots (Graph.knows_none _) ⟨behind, before⟩ member
  | block item => exact item.slots known ⟨behind, before⟩ member
  | @function _ _ _ _ _ _ g _ entered | @body _ _ _ _ _ _ g _ entered =>
    have began := enter_ok entered
    simp only [began.size] at behind
    have apart : e.slot.node ≠ g.nodes.size := by omega
    simpa only [Visit.arrows, Statement.arrows, List.mem_append, began.size, began.current,
      Edge.not_mem_into_of_node apart, false_or, or_false] using member
  | @consequent _ _ _ _ _ consequent alternate g _ entered =>
    have began := enter_ok entered
    simp only [began.size] at behind before
    have apart : e.slot.node ≠ g.nodes.size := by omega
    have other (b : Statement) :
        e ∉ b.arrows (g.nodes.size + 1 + consequent.size) (some g.nodes.size) := by
      intro inside
      have := Statement.slot_inside (by simp; omega) inside
      omega
    cases alternate with
    | none | some alternate =>
      simpa only [Visit.arrows, Statement.arrows, List.mem_append, began.size, began.current, other,
        Edge.not_mem_into_of_node apart, Edge.not_mem_toBranch_of_node apart, false_or, or_false]
        using member
  | @alternate _ _ _ _ _ _ consequent _ g _ _ _ entered first joined =>
    obtain ⟨start, number⟩ := alternate_starts entered first joined
    simp only [start] at behind
    have apart : e.slot.node ≠ g.nodes.size := by omega
    have other : e ∉ consequent.arrows (g.nodes.size + 1) (some g.nodes.size) := by
      intro inside
      have := Statement.slot_inside (by simp) inside
      omega
    simpa only [Visit.arrows, Statement.arrows, List.mem_append, start, number, other,
      Edge.not_mem_into_of_node apart, Edge.not_mem_toBranch_of_node apart, false_or, or_false]
      using member

theorem Reaches.slots (reaches : Reaches source v w) (known : v.graph.Knows v.incoming)
    (own : w.Owns e.slot.node) (member : e ∈ v.arrows) : e ∈ w.arrows := by
  induction reaches with
  | refl => exact member
  | tail before calls ih =>
    exact calls.slots (Reaches.knows before known) own (ih (calls.owns own))

theorem not_isReturn {span test : Span} {body : Statement} (known : v.graph.Knows v.incoming)
    (loop : v.statement = .loop span test body)
    (none : body.last (v.graph.nodes.size + 1) (some v.graph.nodes.size) = none)
    (member : e ∈ v.arrows) (here : e.target = v.graph.nodes.size) : ¬ e.IsReturn := by
  rw [Visit.arrows, loop, Statement.arrows, none, List.mem_append, List.mem_append] at member
  obtain (entry | inner) | back := member
  · obtain ⟨m, given, rfl⟩ := Edge.mem_into.mp entry
    have before := known m given
    exact fun led => absurd led.2 (Nat.not_le.mpr before)
  · have behind := (Statement.arrows_lie _ _ body e inner).1
    omega
  · cases back

/-- Whatever a walk does behind a loop, and however it ends, it leads back to the loop only from the end
of its body. -/
theorem Reaches.not_isReturn {span test : Span} {body : Statement} (reaches : Reaches source v w)
    (known : v.graph.Knows v.incoming) (loop : w.statement = .loop span test body)
    (none : body.last (w.graph.nodes.size + 1) (some w.graph.nodes.size) = none)
    (member : e ∈ (v.outcome source).2.edges) (added : e ∉ v.graph.edges) (led : e.IsReturn) :
    e.target ≠ w.graph.nodes.size := by
  intro here
  have makes : Makes source (visit source v.level v.incoming v.statement) v.graph _ _ :=
    visit_makes v.statement rfl
  have arrow := (makes.mem_edges member).resolve_left added
  rw [plan_edges] at arrow
  have place : e.slot = .back w.graph.nodes.size := Edge.slot_eq_back.mpr ⟨led, here⟩
  have own : w.Owns e.slot.node := by simp [place, Slot.node, Owns, loop]
  exact w.not_isReturn (reaches.knows known) loop none (reaches.slots known own arrow) here led

end Visit

/-- An unsupported statement cuts its list. Once the statements before it are walked, the list goes
on as the statements behind it would alone with nothing flowing in, and ends as they end. The statement
itself adds nothing, none of the edges added joins a node behind the cut to one before it, and a loop
whose body lists an unsupported statement last is not led back to. -/
theorem unsupported_cuts {source : String} {level : Nat} {incoming out : Option Nat} {t : Statement}
    {before after : List Statement} {span : Span} {kind : String} {g g₁ : Graph}
    (listed : t.Lists (before ++ .unsupported span kind :: after)) (shallow : level + 1 < walkLimit)
    (walked : (visitAll source (level + 1) (t.handed incoming) before).outcome g = (.ok out, g₁)) :
    (visit source level incoming t).outcome g =
        (visitAll source (level + 1) none after).outcome g₁ ∧
      (visit source (level + 1) out (.unsupported span kind)).outcome g₁ = (.ok none, g₁) ∧
      (g.Knows incoming → ∀ e ∈ ((visit source level incoming t).outcome g).2.edges, e ∉ g.edges →
        (e.source < g₁.nodes.size ↔ e.target < g₁.nodes.size)) ∧
      (Statement.allHollow after → ∀ last,
        ((visit source level incoming t).outcome g).1 = .ok last → last = none) ∧
      ((∀ item ∈ after, ∃ span, item = .block span []) →
        (visit source level incoming t).outcome g = (.ok none, g₁)) ∧
      ∀ v w : Visit, v.graph.Knows v.incoming → Visit.Reaches source v w →
        ∀ span test body items place kind, w.statement = .loop span test body →
          body.Lists (items ++ [.unsupported place kind]) →
          ∀ e ∈ (v.outcome source).2.edges, e ∉ v.graph.edges → e.IsReturn →
            e.target ≠ w.graph.nodes.size := by
  have passes : (visit source level incoming t).outcome g =
      (visitAll source (level + 1) none after).outcome g₁ := by
    rw [visit_list listed (Nat.lt_of_succ_lt shallow), visitAll_cut shallow, outcome_bind, walked]
  refine ⟨passes, ?_, ?_, ?_, ?_, ?_⟩
  · rw [visit_unsupported shallow]
    rfl
  · intro known e member added
    have known' : g.Knows (t.handed incoming) := by
      cases t with
      | program _ _ => exact g.knows_none
      | _ => exact known
    rw [passes] at member
    rcases visitAll_apart member with inner | behind
    · have within := visitAll_within known' walked inner added
      omega
    · omega
  · intro hollow last ended
    rw [passes] at ended
    exact visitAll_hollow hollow ended
  · intro empty
    rw [passes, visitAll_empty shallow empty]
    rfl
  · intro v w known reaches span test body items place kind loop ends e member added led
    exact reaches.not_isReturn known loop ends.last_eq_none member added led

/-- A loop that ends with an unsupported statement, another such statement, and what is behind: a
statement, and one that is no piece of the script. -/
def cutLoop : Statement :=
  .loop ⟨0, 11⟩ ⟨0, 1⟩ (.block ⟨2, 7⟩ [.expression ⟨2, 3⟩, .unsupported ⟨4, 6⟩ "empty_statement"])

def cutBlock : Statement :=
  .block ⟨0, 13⟩
    [cutLoop, .unsupported ⟨8, 10⟩ "debugger_statement", .expression ⟨11, 12⟩, .expression ⟨12, 99⟩]

def cutStart : Graph := ⟨#[⟨"w", .exit⟩], #[]⟩

def cutFirst : Graph :=
  ⟨#[⟨"w", .exit⟩, ⟨"while (x)", .loop⟩, ⟨"a", .expression⟩], #[⟨0, 1, none⟩, ⟨1, 2, none⟩]⟩

def cutChart : Graph :=
  ⟨#[⟨"w", .exit⟩, ⟨"while (x)", .loop⟩, ⟨"a", .expression⟩, ⟨"b", .expression⟩],
    #[⟨0, 1, none⟩, ⟨1, 2, none⟩]⟩

theorem cutBlock_cut :
    cutStart.Knows (some 0) ∧
      (visitAll "x a ;;  ;; b " 1 (some 0) [cutLoop]).outcome cutStart = (.ok (some 1), cutFirst) ∧
      (visit "x a ;;  ;; b " 0 (some 0) cutBlock).outcome cutStart =
        (.error (.outside ⟨12, 99⟩ 13), cutChart) ∧
      (∀ e ∈ cutChart.edges, e.source < 3 ↔ e.target < 3) ∧
      ∀ e ∈ cutChart.edges, e.IsReturn → e.target ≠ 1 := by
  have known : cutStart.Knows (some 0) := by
    rintro m ⟨⟩
    decide
  have first : (visitAll "x a ;;  ;; b " 1 (some 0) [cutLoop]).outcome cutStart =
      (.ok (some 1), cutFirst) := by decide +kernel
  have rest : (visitAll "x a ;;  ;; b " 1 none [.expression ⟨11, 12⟩, .expression ⟨12, 99⟩]).outcome
      cutFirst = (.error (.outside ⟨12, 99⟩ 13), cutChart) := by decide +kernel
  obtain ⟨walked, _, apart, _, _, returns⟩ :=
    @unsupported_cuts "x a ;;  ;; b " 0 (some 0) _ cutBlock [cutLoop] _ _ _ _ _ .block (by decide)
      first
  have whole := walked.trans rest
  have reached : Visit.Reaches "x a ;;  ;; b " ⟨0, some 0, cutBlock, cutStart⟩
      ⟨1, some 0, cutLoop, cutStart⟩ := .single (.block .head)
  have apart := apart known
  have led := returns _ _ known reached _ _ _ [.expression ⟨2, 3⟩] _ _ rfl .block
  rw [whole] at apart
  rw [Visit.outcome, whole] at led
  have added (e : Edge) : e ∉ cutStart.edges := Array.not_mem_empty e
  exact ⟨known, first, whole, fun e member => apart e member (added e),
    fun e member => led e member (added e)⟩

end Walk

end Flowchart
