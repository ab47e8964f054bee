import Flowchart.Proofs.Text.Span
import Flowchart.Proofs.Walk.Reading
import Flowchart.Synthesis
import Flowchart.Tree.Lowering

/-! What is lowered can be walked. Lowering counts the levels of statements, and a walk counts every
statement that stands in another, blocks as well; twice the level bounds the depth of the walk. -/
namespace Flowchart

/-- The faults of reading a script. -/
def Fault.OfReading : Fault → Prop
  | parse _ => True
  | tooDeep limit _ => limit = statementLimit
  | walk _ => False

/-- A good value, or a fault of reading. -/
def Yields {α : Type} (good : α → Prop) : Except Fault α → Prop
  | .ok value => good value
  | .error fault => fault.OfReading

namespace Yields

variable {α β : Type} {good : α → Prop} {fine : β → Prop} {result : Except Fault α}

theorem bind {next : α → Except Fault β} (first : Yields good result)
    (rest : ∀ value, good value → Yields fine (next value)) : Yields fine (result >>= next) := by
  cases result with
  | ok value => exact rest value first
  | error fault => exact first

theorem mapM {f : β → Except Fault α} {items : List β}
    (each : ∀ item ∈ items, Yields good (f item)) :
    Yields (fun values => ∀ value ∈ values, good value) (items.mapM f) := by
  induction items with
  | nil => exact nofun
  | cons item rest ih =>
    rw [List.mapM_cons]
    apply (each item List.mem_cons_self).bind
    intro value first
    apply (ih fun other later => each other (List.mem_cons_of_mem _ later)).bind
    exact fun values later => List.forall_mem_cons.mpr ⟨first, later⟩

end Yields

namespace Tree

mutual

/-- All ranges of a tree lie in the script. -/
def Within (source : String) : Tree → Prop
  | node info children => info.span.Within source ∧ AllWithin source children

def AllWithin (source : String) : List Tree → Prop
  | [] => True
  | t :: rest => Within source t ∧ AllWithin source rest

end

section Parts

variable {source : String} {t child : Tree} {ts : List Tree}

theorem AllWithin.mem (within : AllWithin source ts) (member : child ∈ ts) :
    child.Within source := by
  induction member with
  | head => exact within.1
  | tail _ _ ih => exact ih within.2

theorem Within.span (within : t.Within source) : t.span.Within source := by
  cases t
  exact within.1

theorem Within.ofChild (within : t.Within source) (member : child ∈ t.children) :
    child.Within source := by
  cases t
  exact within.2.mem member

theorem Within.field {name : String} (within : t.Within source)
    (found : t.field? name = some child) : child.Within source :=
  within.ofChild (List.mem_of_find?_eq_some found)

theorem Within.part (within : t.Within source) (member : child ∈ t.parts) : child.Within source :=
  within.ofChild (List.mem_filter.mp member).1

theorem required_yields (within : t.Within source) (field : String) :
    Yields (Within source) (t.required field) := by
  unfold required
  split
  · rename_i found
    exact within.field found
  · trivial

theorem conditionSpan_yields (within : t.Within source) :
    Yields (Span.Within source) t.conditionSpan := by
  apply (required_yields within "condition").bind
  intro condition inside
  split
  · split
    · rename_i inner _ parts
      exact (inside.part (by rw [parts]; exact List.mem_cons_self)).span
    · exact inside.span
  · exact inside.span

theorem declarator_yields (within : t.Within source) :
    Yields (fun d => ∀ span ∈ d.name :: d.value.toList, span.Within source) t.declarator := by
  apply (required_yields within "name").bind
  intro name inside
  refine List.forall_mem_cons.mpr ⟨inside.span, fun span member => ?_⟩
  obtain ⟨value, found, rfl⟩ := Option.map_eq_some_iff.mp (Option.mem_toList.mp member)
  exact (within.field found).span

theorem declarators_yields (within : t.Within source) :
    Yields (fun ds => ∀ d ∈ ds, ∀ span ∈ d.name :: d.value.toList, span.Within source)
      t.declarators :=
  Yields.mapM fun _ member => declarator_yields (within.part (List.mem_filter.mp member).1)

end Parts

/-- How deep a walk may be at a tree that is lowered at a level. Programs and blocks may stand at
twice the level, everything else stands before it. -/
structure Room (level depth : Nat) (kind : String) : Prop where
  depth_le : depth ≤ 2 * level
  depth_lt : kind ≠ "program" → kind ≠ "statement_block" → depth < 2 * level

def Walkable (source : String) (depth : Nat) (s : Statement) : Prop :=
  ∀ place ∈ s.reached depth, Walk.Fits source place

def AllWalkable (source : String) (depth : Nat) (ss : List Statement) : Prop :=
  ∀ place ∈ Statement.reachedAll depth ss, Walk.Fits source place

section Rooms

variable {level depth : Nat} {kind : String}

theorem room_in_list (room : depth ≤ 2 * level) : Room (level + 1) (depth + 1) kind :=
  ⟨by omega, fun _ _ => by omega⟩

/-- A block shares the level of its statement. -/
theorem room_in_body (room : depth < 2 * level) (body : Tree) :
    Room (bodyLevel level body) (depth + 1) body.kind := by
  unfold bodyLevel
  split
  · rename_i block
    exact ⟨by omega, fun _ other => absurd (eq_of_beq block) other⟩
  · exact room_in_list (Nat.le_of_lt room)

theorem Room.before {other : String} (room : Room level depth kind) (same : kind = other)
    (single : other ≠ "program" ∧ other ≠ "statement_block") : depth < 2 * level := by
  subst same
  exact room.depth_lt single.1 single.2

/-- The two limits fit together. -/
theorem Room.below (room : Room level depth kind) (shallow : level ≤ statementLimit) :
    depth < walkLimit := by
  have := room.depth_le
  unfold walkLimit
  omega

end Rooms

theorem orLacks_yields {t : Tree} {field : String} {good : Statement → Prop}
    {result : Option (Except Fault Statement)} (each : ∀ r, result = some r → Yields good r) :
    Yields good (t.orLacks field result) := by
  cases result with
  | none => trivial
  | some r => exact each r rfl

theorem label_inside {source : String} {span : Span} (inside : span.Within source) :
    ∀ shown ∈ [span], (shown.slice? source).isSome :=
  List.forall_mem_singleton.mpr inside.slice_isSome

mutual

theorem lower_yields {source : String} :
    ∀ (t : Tree) {level depth : Nat}, t.Within source → Room level depth t.kind →
      Yields (Walkable source depth) (lower level t)
  | node info children, level, depth, within, room => by
    rw [lower]
    dsimp only
    split
    · exact rfl
    · rename_i shallow
      have below := room.below (Nat.not_lt.mp shallow)
      split
      case h_1 | h_2 =>
        apply (lowerAll_yields children within.2 room.depth_le).bind
        exact fun body walkable => List.forall_mem_cons.mpr ⟨⟨below, nofun⟩, walkable⟩
      case h_3 _ kind | h_4 _ kind =>
        have before := room.before kind (by decide)
        apply (required_yields within "name").bind
        intro name inside
        apply (orLacks_yields fun r => lowerField_yields children r within.2 before).bind
        intro body walkable
        exact List.forall_mem_cons.mpr ⟨⟨below, label_inside inside.span⟩, walkable⟩
      case h_5 | h_6 =>
        apply (declarators_yields within).bind
        intro ds inside
        refine List.forall_mem_singleton.mpr ⟨below, fun span member => ?_⟩
        obtain ⟨d, listed, named⟩ := List.mem_flatMap.mp member
        exact (inside d listed span named).slice_isSome
      case h_7 _ kind =>
        have before := room.before kind (by decide)
        apply (required_yields within "consequence").bind
        intro _ _
        apply (lowerElse_yields children within.2 before).bind
        intro alternate other
        apply (conditionSpan_yields within).bind
        intro test inside
        apply (orLacks_yields fun r => lowerField_yields children r within.2 before).bind
        intro consequent walkable
        cases alternate with
        | none => exact List.forall_mem_cons.mpr ⟨⟨below, label_inside inside⟩, walkable⟩
        | some alternate =>
          have both := List.forall_mem_append.mpr ⟨walkable, other alternate rfl⟩
          exact List.forall_mem_cons.mpr ⟨⟨below, label_inside inside⟩, both⟩
      case h_8 _ kind =>
        have before := room.before kind (by decide)
        apply (required_yields within "body").bind
        intro _ _
        apply (conditionSpan_yields within).bind
        intro test inside
        apply (orLacks_yields fun r => lowerField_yields children r within.2 before).bind
        intro body walkable
        exact List.forall_mem_cons.mpr ⟨⟨below, label_inside inside⟩, walkable⟩
      case h_9 => exact List.forall_mem_singleton.mpr ⟨below, label_inside within.1⟩
      case h_10 =>
        refine List.forall_mem_singleton.mpr ⟨below, fun span member => ?_⟩
        obtain ⟨part, first, rfl⟩ := Option.map_eq_some_iff.mp (Option.mem_toList.mp member)
        exact (within.part (List.mem_of_head? first)).span.slice_isSome
      case h_11 => exact List.forall_mem_singleton.mpr ⟨below, nofun⟩

theorem lowerAll_yields {source : String} :
    ∀ (ts : List Tree) {level depth : Nat}, AllWithin source ts → depth ≤ 2 * level →
      Yields (AllWalkable source (depth + 1)) (lowerAll (level + 1) ts)
  | [], _, _, _, _ => nofun
  | child :: rest, level, depth, within, room => by
    rw [lowerAll]
    split
    · apply (lower_yields child within.1 (room_in_list room)).bind
      intro s first
      apply (lowerAll_yields rest within.2 room).bind
      exact fun ss later => List.forall_mem_append.mpr ⟨first, later⟩
    · exact lowerAll_yields rest within.2 room

theorem lowerField_yields {source : String} :
    ∀ (ts : List Tree) {level depth : Nat} {field : String} (result : Except Fault Statement),
      AllWithin source ts → depth < 2 * level → lowerField level field ts = some result →
        Yields (Walkable source (depth + 1)) result
  | child :: rest, level, depth, field, result, within, room, found => by
    rw [lowerField] at found
    split at found
    · cases found
      exact lower_yields child within.1 (room_in_body room child)
    · exact lowerField_yields rest result within.2 room found

theorem lowerElse_yields {source : String} :
    ∀ (ts : List Tree) {level depth : Nat}, AllWithin source ts → depth < 2 * level →
      Yields (fun alternate => ∀ s, alternate = some s → Walkable source (depth + 1) s)
        ((lowerElse level ts).getD (pure none))
  | [], _, _, _, _ => nofun
  | node info children :: rest, level, depth, within, room => by
    rw [lowerElse]
    split
    · exact lowerFirst_yields children within.1.2 room
    · exact lowerElse_yields rest within.2 room

theorem lowerFirst_yields {source : String} :
    ∀ (ts : List Tree) {level depth : Nat}, AllWithin source ts → depth < 2 * level →
      Yields (fun first => ∀ s, first = some s → Walkable source (depth + 1) s)
        (lowerFirst level ts)
  | [], _, _, _, _ => nofun
  | child :: rest, level, depth, within, room => by
    rw [lowerFirst]
    split
    · apply (lower_yields child within.1 (room_in_body room child)).bind
      rintro s walkable _ ⟨⟩
      exact walkable
    · exact lowerFirst_yields rest within.2 room

end

/-- Whatever is lowered from a whole script can be walked, so no script that is read well fails in
its walk. -/
theorem lowered_walks (source : String) :
    (∀ (t : Tree) (s : Statement) (g : Graph), t.kind = "program" → t.Within source →
      t.lower 0 = .ok s → ∃ last g', g.walk source s = (.ok last, g')) ∧
    ∀ engine : Engine,
      (∀ tree? t, engine = .ok tree? → tree? source = some t → t.info.faulty = false →
        t.kind = "program" ∧ t.Within source) →
        ∀ fault, synthesize (parse engine) source = .error fault → fault.OfReading := by
  have walkable {t : Tree} (root : t.kind = "program") (within : t.Within source) :
      Yields (Walkable source 0) (t.lower 0) :=
    lower_yields t within ⟨Nat.zero_le _, fun other => absurd root other⟩
  have walks {s : Statement} (fits : Walkable source 0 s) (g : Graph) :
      ∃ last g', g.walk source s = (.ok last, g') :=
    ⟨_, _, Walk.visit_ok_iff.mpr ⟨fits, rfl, rfl⟩⟩
  constructor
  · intro t s g root within lowered
    have fits := walkable root within
    rw [lowered] at fits
    exact walks fits g
  · intro engine sound fault failed
    have reads : Yields (Walkable source 0) (parse engine source) := by
      rcases engine with cause | tree?
      · trivial
      rw [parse, read]
      split
      · trivial
      · rename_i t found
        split
        · trivial
        · rename_i clean
          obtain ⟨root, within⟩ := sound tree? t rfl found (Bool.eq_false_iff.mpr clean)
          exact walkable root within
    unfold synthesize at failed
    cases result : parse engine source with
    | error first =>
      rw [result] at failed reads
      cases failed
      exact reads
    | ok s =>
      rw [result] at failed reads
      obtain ⟨last, g, walked⟩ := walks reads .empty
      simp only [bind, Except.bind, walked] at failed
      cases failed

def sample (kind : String) (fields : List String) (span : Span) : List Tree → Tree :=
  node ⟨kind, true, false, .read, false, fields, span, 0, span.start⟩

/-- The tree of `while (é) {}`, without its words and signs. -/
def loopTree : Tree :=
  sample "program" [] ⟨0, 13⟩ [sample "while_statement" [] ⟨0, 13⟩
    [sample "parenthesized_expression" ["condition"] ⟨6, 10⟩ [sample "identifier" [] ⟨7, 9⟩ []],
      sample "statement_block" ["body"] ⟨11, 13⟩ []]]

theorem loopTree_walks :
    loopTree.kind = "program" ∧ loopTree.Within "while (é) {}" ∧
      loopTree.lower 0 = .ok (.program ⟨0, 13⟩ [.loop ⟨0, 13⟩ ⟨7, 9⟩ (.block ⟨11, 13⟩ [])]) ∧
      (∃ last g, Graph.empty.walk "while (é) {}"
        (.program ⟨0, 13⟩ [.loop ⟨0, 13⟩ ⟨7, 9⟩ (.block ⟨11, 13⟩ [])]) = (.ok last, g)) ∧
      ∀ fault, synthesize (parse (.ok fun _ => some loopTree)) "while (é) {}" = .error fault →
        fault.OfReading := by
  have within : loopTree.Within "while (é) {}" := by
    have piece (start stop : Nat) (ordered : start ≤ stop)
        (first : String.Pos.Raw.isValid "while (é) {}" ⟨start⟩ = true)
        (last : String.Pos.Raw.isValid "while (é) {}" ⟨stop⟩ = true) :
        Span.Within "while (é) {}" ⟨start, stop⟩ :=
      ⟨ordered, String.Pos.Raw.isValid_eq_true_iff.mp first,
        String.Pos.Raw.isValid_eq_true_iff.mp last⟩
    have whole := piece 0 13 (by decide) (by decide) (by decide)
    have condition := piece 6 10 (by decide) (by decide) (by decide)
    have name := piece 7 9 (by decide) (by decide) (by decide)
    have body := piece 11 13 (by decide) (by decide) (by decide)
    exact ⟨whole, ⟨whole, ⟨condition, ⟨name, trivial⟩, trivial⟩, ⟨body, trivial⟩, trivial⟩, trivial⟩
  have lowered : loopTree.lower 0 =
      .ok (.program ⟨0, 13⟩ [.loop ⟨0, 13⟩ ⟨7, 9⟩ (.block ⟨11, 13⟩ [])]) := rfl
  obtain ⟨walks, fails⟩ := lowered_walks "while (é) {}"
  refine ⟨rfl, within, lowered, walks _ _ _ rfl within lowered, fails _ ?_⟩
  rintro _ _ ⟨⟩ ⟨⟩ _
  exact ⟨rfl, within⟩

end Tree

end Flowchart
