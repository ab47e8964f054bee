import Flowchart.Proofs.Walk.Offence

/-! Where a walk stops. It fails at the first statement with which something is wrong, and leaves the
graph as it was when that statement was reached. -/
namespace Flowchart

namespace Walk

section Failing

variable {source : String} {level current : Nat} {incoming out : Option Nat} {s : Statement}
  {span : Span} {label : String → String} {kind : NodeKind} {fault : WalkFault} {g g' : Graph}

theorem Makes.error_iff {α : Type} {w : Walk α} {a : α} {steps : List Step}
    (makes : Makes source w g steps a) : w.outcome g = (.error fault, g') ↔
      steps.findSome? (Step.fault? source) = some fault ∧
        g' = g.after (performed source steps) := by
  rw [makes, answer]
  cases steps.findSome? (Step.fault? source) with
  | none => simp
  | some first => simp [eq_comm]

theorem outcome_bind_error {α β : Type} {w : Walk α} {f : α → Walk β} :
    (w >>= f).outcome g = (.error fault, g') ↔ w.outcome g = (.error fault, g') ∨
      ∃ a g₁, w.outcome g = (.ok a, g₁) ∧ (f a).outcome g₁ = (.error fault, g') := by
  rw [outcome_bind]
  cases w.outcome g with
  | mk result g₁ =>
    cases result with
    | error first => simp
    | ok a =>
      constructor
      · exact fun failed => .inr ⟨a, g₁, rfl, failed⟩
      · rintro (⟨⟨⟩⟩ | ⟨_, _, ⟨⟩, failed⟩)
        exact failed

theorem plan_begins (source : String) (level n : Nat) (incoming : Option Nat) (s : Statement) :
    ∃ rest, plan source level n incoming s = entering source level s ++ rest := by
  cases s with
  | conditional _ _ _ alternate => cases alternate <;> exact ⟨_, rfl⟩
  | unsupported span kind => exact ⟨[], (List.append_nil _).symm⟩
  | _ => exact ⟨_, rfl⟩

theorem after_of_idle {steps : List Step}
    (idle : ∀ step ∈ steps, step.node? = none ∧ step.edge? = none) : g.after steps = g := by
  induction steps with
  | nil => rfl
  | cons step rest ih =>
    obtain ⟨here, later⟩ := List.forall_mem_cons.mp idle
    rw [Graph.after_cons]
    cases step with
    | descend level | read span => exact ih later
    | node node => cases here.1
    | edge e => cases here.2

theorem visit_wrong (wrong : offence? source (level, s) = some fault) :
    (visit source level incoming s).outcome g = (.error fault, g) := by
  have makes : Makes source (visit source level incoming s) g _ _ := visit_makes s rfl
  obtain ⟨rest, begins⟩ := plan_begins source level g.nodes.size incoming s
  rw [begins] at makes
  refine makes.error_iff.mpr ⟨?_, ?_⟩
  · rw [List.findSome?_append, show (entering source level s).findSome? _ = some fault from wrong,
      Option.some_or]
  · rw [performed_append_of_fault wrong, after_of_idle (performed_entering wrong)]

theorem visit_fails_iff : (visit source level incoming s).outcome g = (.error fault, g') ↔
    (s.reached level).findSome? (offence? source) = some fault ∧
      g' = g.after (performed source (plan source level g.nodes.size incoming s)) := by
  rw [(visit_makes s rfl).error_iff, plan_fault]

theorem reached_fine (walked : (visit source level incoming s).outcome g = (.ok out, g')) :
    ∀ place ∈ s.reached level, offence? source place = none := by
  intro place member
  exact (offence?_eq_none_iff source place).mpr ((visit_ok_iff.mp walked).1 place member)

theorem enter_error (failed : (enter source level incoming span label kind).outcome g =
    (.error fault, g')) (shown : s.labelSpans = [span]) :
    offence? source (level, s) = some fault := by
  obtain ⟨wrong, _⟩ := enter_makes.error_iff.mp failed
  have node (node : Node) : (Step.node node).fault? source = none := rfl
  rw [findSome?_first, findSome?_first, findSome?_first, node, edges_fine, Option.none_or,
    Option.or_none] at wrong
  rw [offence?_eq, shown, List.map_singleton, findSome?_one]
  exact wrong

theorem guardLevel_error (s : Statement)
    (failed : (guardLevel level).outcome g = (.error fault, g')) :
    offence? source (level, s) = some fault := by
  have makes : Makes source (guardLevel level) g [.descend level] () := guardLevel_makes level
  obtain ⟨wrong, _⟩ := makes.error_iff.mp failed
  rw [findSome?_one] at wrong
  rw [offence?_eq, wrong, Option.some_or]

/-- A visit that places its node and then fails does so in a part of its statement or behind it. -/
theorem part_error {body : Statement} {next : Nat → Option Nat → Walk (Option Nat)}
    (failed : (do
      let current ← enter source level incoming span label kind
      next current (← visit source (level + 1) (some current) body)).outcome g = (.error fault, g'))
    (shown : s.labelSpans = [span]) (fine : offence? source (level, s) = none) :
    ∃ current g₁, (enter source level incoming span label kind).outcome g = (.ok current, g₁) ∧
      ((visit source (level + 1) (some current) body).outcome g₁ = (.error fault, g') ∨
        ∃ out g₂, (visit source (level + 1) (some current) body).outcome g₁ = (.ok out, g₂) ∧
          (next current out).outcome g₂ = (.error fault, g')) := by
  rcases outcome_bind_error.mp failed with wrong | ⟨current, g₁, began, later⟩
  · rw [enter_error wrong shown] at fine
    cases fine
  · exact ⟨current, g₁, began, outcome_bind_error.mp later⟩

theorem joinTo_error {branch : Branch} {next : Walk (Option Nat)}
    (failed : (joinTo current branch out >>= fun _ => next).outcome g = (.error fault, g')) :
    ∃ g₁, (joinTo current branch out).outcome g = (.ok (), g₁) ∧
      next.outcome g₁ = (.error fault, g') := by
  cases out <;> exact ⟨_, rfl, failed⟩

theorem loopBack_error {next : Walk (Option Nat)}
    (failed : (loopBack current out >>= fun _ => next).outcome g = (.error fault, g')) :
    ∃ g₁, next.outcome g₁ = (.error fault, g') := by
  cases out <;> exact ⟨_, failed⟩

end Failing

theorem reached_first (level : Nat) (s : Statement) : ∃ rest, s.reached level = (level, s) :: rest := by
  cases s with
  | conditional _ _ _ alternate => cases alternate <;> exact ⟨_, rfl⟩
  | _ => exact ⟨_, rfl⟩

namespace Visit

variable {source : String} {v w : Visit} {fault : WalkFault} {g g' : Graph}

/-- A visit inside another fails, behind statements with which nothing is wrong. -/
structure Breaks (source : String) (places : List (Nat × Statement)) (fault : WalkFault) (g : Graph)
    (w : Visit) : Prop where
  failed : w.outcome source = (.error fault, g)
  behind : ∃ before after, places = before ++ w.statement.reached w.level ++ after ∧
    ∀ place ∈ before, offence? source place = none

theorem Breaks.widen {places more : List (Nat × Statement)} (others : List (Nat × Statement))
    (breaks : Breaks source places fault g w) (fine : ∀ place ∈ more, offence? source place = none) :
    Breaks source (more ++ places ++ others) fault g w := by
  obtain ⟨failed, before, after, split, clean⟩ := breaks
  refine ⟨failed, more ++ before, after ++ others, ?_, List.forall_mem_append.mpr ⟨fine, clean⟩⟩
  rw [split]
  simp only [List.append_assoc]

theorem item_breaks {level : Nat} {incoming : Option Nat} {ss : List Statement}
    (failed : (visitAll source level incoming ss).outcome g = (.error fault, g')) :
    ∃ w, Item source level incoming ss g w ∧
      Breaks source (Statement.reachedAll level ss) fault g' w := by
  induction ss generalizing incoming g with
  | nil => cases failed
  | cons s rest ih =>
    rcases outcome_bind_error.mp failed with here | ⟨out, g₁, walked, later⟩
    · exact ⟨_, .head, here, [], _, rfl, nofun⟩
    · obtain ⟨w, item, breaks⟩ := ih later
      refine ⟨w, .tail walked item, ?_⟩
      have wide := breaks.widen [] (reached_fine walked)
      rwa [List.append_nil] at wide

theorem list_breaks {level : Nat} {incoming : Option Nat} {s : Statement} {ss : List Statement}
    (failed : (guardLevel level >>= fun _ => visitAll source (level + 1) incoming ss).outcome g =
      (.error fault, g')) (fine : offence? source (level, s) = none) :
    ∃ w, Item source (level + 1) incoming ss g w ∧
      Breaks source (Statement.reachedAll (level + 1) ss) fault g' w := by
  rcases outcome_bind_error.mp failed with wrong | ⟨_, _, passed, later⟩
  · rw [guardLevel_error s wrong] at fine
    cases fine
  · cases guardLevel_ok passed
    exact item_breaks later

/-- A visit that fails though nothing is wrong with its own statement makes one that fails. -/
theorem calls_breaks (failed : v.outcome source = (.error fault, g))
    (fine : offence? source (v.level, v.statement) = none) :
    ∃ w rest, Calls source v w ∧ v.statement.reached v.level = (v.level, v.statement) :: rest ∧
      Breaks source rest fault g w := by
  obtain ⟨level, incoming, s, g₀⟩ := v
  cases s with
  | program span body =>
    obtain ⟨w, item, breaks⟩ := list_breaks (s := .program span body) failed fine
    exact ⟨w, _, .program item, rfl, breaks⟩
  | block span body =>
    obtain ⟨w, item, breaks⟩ := list_breaks (s := .block span body) failed fine
    exact ⟨w, _, .block item, rfl, breaks⟩
  | function span name body =>
    rw [outcome, visit_function] at failed
    obtain ⟨current, g₁, began, wrong | ⟨_, _, _, done⟩⟩ := part_error failed rfl fine
    · exact ⟨_, _, .function began, rfl, wrong, [], [], (List.append_nil _).symm, nofun⟩
    · cases done
  | conditional span test consequent alternate =>
    cases alternate with
    | none =>
      rw [outcome, visit_conditional] at failed
      obtain ⟨current, g₁, began, wrong | ⟨_, _, _, later⟩⟩ := part_error failed rfl fine
      · exact ⟨_, _, .consequent began, rfl, wrong, [], [], (List.append_nil _).symm, nofun⟩
      · obtain ⟨_, _, done⟩ := joinTo_error later
        cases done
    | some alternate =>
      rw [outcome, visit_conditional_else] at failed
      obtain ⟨current, g₁, began, wrong | ⟨_, _, walked, later⟩⟩ := part_error failed rfl fine
      · exact ⟨_, _, .consequent began, rfl, wrong, [], _, rfl, nofun⟩
      · obtain ⟨_, joined, later⟩ := joinTo_error later
        rcases outcome_bind_error.mp later with wrong | ⟨_, _, _, later⟩
        · exact ⟨_, _, .alternate began walked joined, rfl, wrong, _, [], (List.append_nil _).symm,
            reached_fine walked⟩
        · obtain ⟨_, _, done⟩ := joinTo_error later
          cases done
  | loop span test body =>
    rw [outcome, visit_loop] at failed
    obtain ⟨current, g₁, began, wrong | ⟨_, _, _, later⟩⟩ := part_error failed rfl fine
    · exact ⟨_, _, .body began, rfl, wrong, [], [], (List.append_nil _).symm, nofun⟩
    · obtain ⟨_, done⟩ := loopBack_error later
      cases done
  | declaration _ _ | expression _ | exit _ _ | unsupported _ _ =>
    have wrong := (visit_fails_iff.mp failed).1
    simp [Statement.reached, fine] at wrong

/-- A walk that fails does so in the visit of the first statement with which something is wrong, which
leaves the graph as it finds it. -/
theorem fails_at (v : Visit) (failed : v.outcome source = (.error fault, g)) :
    ∃ w, Reaches source v w ∧ w.outcome source = (.error fault, w.graph) ∧ w.graph = g ∧
      offence? source (w.level, w.statement) = some fault ∧
      ∃ before after, v.statement.reached v.level = before ++ (w.level, w.statement) :: after ∧
        ∀ place ∈ before, offence? source place = none := by
  cases here : offence? source (v.level, v.statement) with
  | some first =>
    have stopped : v.outcome source = (.error first, v.graph) := visit_wrong here
    rw [stopped] at failed
    cases failed
    obtain ⟨rest, begins⟩ := reached_first v.level v.statement
    exact ⟨v, .refl, stopped, rfl, here, [], rest, begins, nofun⟩
  | none =>
    obtain ⟨w, rest, calls, begins, breaks⟩ := calls_breaks failed here
    obtain ⟨before, after, split, fine⟩ := breaks.behind
    -- The visit inside reaches fewer statements.
    have smaller : (w.statement.reached w.level).length < (v.statement.reached v.level).length := by
      rw [begins, split]
      simp only [List.length_cons, List.length_append]
      omega
    obtain ⟨x, reaches, stopped, same, wrong, first, others, inner, clean⟩ := fails_at w breaks.failed
    refine ⟨x, reaches.head calls, stopped, same, wrong,
      (v.level, v.statement) :: (before ++ first), others ++ after, ?_, ?_⟩
    · rw [begins, split, inner]
      simp only [List.cons_append, List.append_assoc]
    · exact List.forall_mem_cons.mpr ⟨here, List.forall_mem_append.mpr ⟨fine, clean⟩⟩
termination_by (v.statement.reached v.level).length

end Visit

end Walk

namespace Statement

mutual

/-- A statement without the places that no label shows. -/
def unplaced : Statement → Statement
  | program _ body => program ⟨0, 0⟩ (unplacedAll body)
  | block _ body => block ⟨0, 0⟩ (unplacedAll body)
  | function _ name body => function ⟨0, 0⟩ name (unplaced body)
  | declaration _ ds => declaration ⟨0, 0⟩ ds
  | conditional _ test consequent none => conditional ⟨0, 0⟩ test (unplaced consequent) none
  | conditional _ test consequent (some alternate) =>
    conditional ⟨0, 0⟩ test (unplaced consequent) (some (unplaced alternate))
  | loop _ test body => loop ⟨0, 0⟩ test (unplaced body)
  | expression span => expression span
  | exit _ argument => exit ⟨0, 0⟩ argument
  | unsupported _ kind => unsupported ⟨0, 0⟩ kind

def unplacedAll : List Statement → List Statement
  | [] => []
  | s :: rest => unplaced s :: unplacedAll rest

end

end Statement

namespace Walk

mutual

theorem visit_unplaced (source : String) (level : Nat) (incoming : Option Nat) : ∀ s : Statement,
    visit source level incoming s.unplaced = visit source level incoming s
  | .program _ body | .block _ body => by
    simp only [Statement.unplaced, visit, visitAll_unplaced _ _ _ body]
  | .function _ _ body | .loop _ _ body | .conditional _ _ body none => by
    simp only [Statement.unplaced, visit, visit_unplaced _ _ _ body]
  | .conditional _ _ consequent (some alternate) => by
    simp only [Statement.unplaced, visit, visit_unplaced _ _ _ consequent, visit_unplaced _ _ _ alternate]
  | .declaration .. | .expression _ | .exit _ none | .exit _ (some _) | .unsupported .. => by
    simp only [Statement.unplaced, visit]

theorem visitAll_unplaced (source : String) (level : Nat) (incoming : Option Nat) :
    ∀ ss : List Statement, visitAll source level incoming (Statement.unplacedAll ss) =
      visitAll source level incoming ss
  | [] => rfl
  | s :: rest => by
    simp only [Statement.unplacedAll, visitAll, visit_unplaced _ _ _ s, visitAll_unplaced _ _ _ rest]

end

theorem edges_prefix_after (g : Graph) (steps : List Step) :
    g.edges.toList <+: (g.after steps).edges.toList := by
  induction steps generalizing g with
  | nil => exact List.prefix_rfl
  | cons step rest ih =>
    rw [Graph.after_cons]
    refine List.IsPrefix.trans ?_ (ih _)
    cases step with
    | descend level | read span | node node => exact List.prefix_rfl
    | edge e =>
      rw [Step.apply, Graph.addEdge]
      split
      · exact List.prefix_rfl
      · simp

end Walk

/-- A walk succeeds exactly if nothing is wrong with a statement that it reaches. Otherwise it fails for the
first such statement. It has then placed the nodes of the statements before it, and the visit of the
statement itself adds nothing. What was in the graph stays, and places that no label shows do not
matter. -/
theorem Graph.walk_stops_at_first (source : String) (s : Statement) (g : Graph) :
    ((∃ last, (g.walk source s).1 = .ok last) ↔
      ∀ place ∈ s.reached 0, ∀ fault, ¬ Walk.Offends source place fault) ∧
    (∀ before place after fault, s.reached 0 = before ++ place :: after →
      (∀ other ∈ before, ∀ fault, ¬ Walk.Offends source other fault) →
      Walk.Offends source place fault →
        (g.walk source s).1 = .error fault ∧
        (g.walk source s).2.nodes.toList =
          g.nodes.toList ++ before.filterMap (fun other => other.2.node? source) ∧
        ∃ v, Walk.Visit.Reaches source ⟨0, none, s, g⟩ v ∧ (v.level, v.statement) = place ∧
          v.graph = (g.walk source s).2 ∧ v.outcome source = (.error fault, v.graph)) ∧
    (g.nodes.toList <+: (g.walk source s).2.nodes.toList ∧
      g.edges.toList <+: (g.walk source s).2.edges.toList) ∧
    ∀ t : Statement, t.unplaced = s.unplaced → g.walk source t = g.walk source s := by
  have makes : Walk.Makes source (Walk.visit source 0 none s) g _ _ := Walk.visit_makes s rfl
  have left : (g.walk source s).2 = g.after (Walk.performed source _) := congrArg Prod.snd makes
  refine ⟨?_, ?_, ⟨?_, ?_⟩, ?_⟩
  · constructor
    · rintro ⟨last, walked⟩ place member fault offends
      have fine := Walk.reached_fine (Prod.ext walked rfl) place member
      rw [Walk.offence?_eq_some_iff.mpr offends] at fine
      cases fine
    · intro fits
      have fine : ∀ place ∈ s.reached 0, Walk.Fits source place := fun place member =>
        (Walk.offence?_eq_none_iff source place).mp (Walk.offence?_eq_none (fits place member))
      exact ⟨_, congrArg Prod.fst (Walk.visit_ok_iff.mpr ⟨fine, rfl, rfl⟩)⟩
  · intro before place after fault split clean offends
    have wrong := Walk.offence?_eq_some_iff.mpr offends
    have fine : ∀ other ∈ before, Walk.offence? source other = none := fun other member =>
      Walk.offence?_eq_none (clean other member)
    have first : (s.reached 0).findSome? (Walk.offence? source) = some fault :=
      List.findSome?_eq_some_iff.mpr ⟨before, place, after, split, wrong, fine⟩
    have failed : g.walk source s = (.error fault, (g.walk source s).2) :=
      Walk.visit_fails_iff.mpr ⟨first, left⟩
    refine ⟨congrArg Prod.fst failed, ?_, ?_⟩
    · rw [left, Walk.nodes_after, Walk.nodes_performed split fine wrong]
    · obtain ⟨v, reaches, stopped, same, here, first', after', split', fine'⟩ :=
        Walk.Visit.fails_at ⟨0, none, s, g⟩ failed
      have one := Walk.first_offence split wrong fine
      rw [Walk.first_offence split' here fine'] at one
      exact ⟨v, reaches, Option.some.inj one, same, stopped⟩
  · rw [left, Walk.nodes_after]
    exact List.prefix_append _ _
  · rw [left]
    exact Walk.edges_prefix_after g _
  · intro t same
    have walked := Walk.visit_unplaced source 0 none t
    rw [same, Walk.visit_unplaced] at walked
    rw [walk, walk, walked]

def cutDeclaration : Statement := .declaration ⟨0, 4⟩ [⟨⟨0, 1⟩, some ⟨2, 3⟩⟩]

/-- `a`, a loop that declares half a letter, and a statement behind the end of the script. -/
def cutTree : Statement :=
  .program ⟨0, 4⟩ [.expression ⟨0, 1⟩, .loop ⟨0, 4⟩ ⟨0, 1⟩ cutDeclaration, .expression ⟨9, 9⟩]

def cutFront : List (Nat × Statement) :=
  [(0, cutTree), (1, .expression ⟨0, 1⟩), (1, .loop ⟨0, 4⟩ ⟨0, 1⟩ cutDeclaration)]

theorem cutTree_stops :
    (Graph.walk ⟨#[], #[]⟩ "a é" cutTree).1 = .error (.outside ⟨2, 3⟩ 4) ∧
      (Graph.walk ⟨#[], #[]⟩ "a é" cutTree).2.nodes.toList =
        [⟨"a", .expression⟩, ⟨"while (a)", .loop⟩] := by
  have fine : ∀ other ∈ cutFront, Walk.offence? "a é" other = none := by decide +kernel
  have wrong : Walk.offence? "a é" (2, cutDeclaration) = some (.outside ⟨2, 3⟩ 4) := by decide +kernel
  have clean : ∀ other ∈ cutFront, ∀ fault, ¬ Walk.Offends "a é" other fault := by
    intro other member fault offends
    rw [← Walk.offence?_eq_some_iff, fine other member] at offends
    cases offends
  obtain ⟨_, stops, _⟩ := Graph.walk_stops_at_first "a é" cutTree ⟨#[], #[]⟩
  obtain ⟨failed, nodes, _⟩ :=
    stops cutFront _ [(1, .expression ⟨9, 9⟩)] _ rfl clean (Walk.offence?_eq_some_iff.mp wrong)
  refine ⟨failed, nodes.trans ?_⟩
  decide +kernel

end Flowchart
