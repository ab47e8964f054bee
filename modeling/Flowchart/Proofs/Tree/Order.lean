import Flowchart.Proofs.Statement.Order
import Flowchart.Proofs.Tree.Lowered
import Flowchart.Proofs.Tree.Lowering
import Flowchart.Proofs.Walk.Order
import Flowchart.Proofs.Walk.Shape

/-! Charts in the order of the script. Where the nodes of a tree lie in order, so do its statements, and
the nodes of its chart are numbered in that order. -/
namespace Flowchart

namespace Tree

/-- A node whose children lie inside it, in order and without overlap. The branches of a conditional
come in the order of their answers. -/
@[mk_iff]
structure Orderly (t : Tree) : Prop where
  ordered : t.span.start ≤ t.span.stop
  inside : ∀ child ∈ t.children, child.span.Inside t.span
  apart : t.children.Pairwise fun a b => a.span.stop ≤ b.span.start
  branches : t.kind = "if_statement" → ∀ consequence alternative,
    t.field? "consequence" = some consequence → t.field? "alternative" = some alternative →
      [consequence, alternative].Sublist t.children

section Inside

variable {t child : Tree} {name : String} {test : Span} {ds : List Declarator} {d : Declarator}

theorem part_inside (orderly : t.Every Orderly) (part : child ∈ t.parts) :
    child.span.Inside t.span :=
  orderly.here.inside child (mem_of_part part)

theorem field_inside (orderly : t.Every Orderly) (found : t.field? name = some child) :
    child.span.Inside t.span :=
  orderly.here.inside child (mem_of_field found)

theorem conditionSpan_inside (orderly : t.Every Orderly) (found : t.conditionSpan = .ok test) :
    test.Inside t.span := by
  obtain ⟨condition, filled, found⟩ := bind_ok found
  have filled := required_eq_ok filled
  have outer := field_inside orderly filled
  split at found
  · split at found
    · rename_i inner _ parts
      cases found
      have part : inner ∈ condition.parts := by
        rw [parts]
        exact List.mem_cons_self
      exact (part_inside (orderly.below (mem_of_field filled)) part).trans outer
    · cases found
      exact outer
  · cases found
    exact outer

theorem declarator_inside (orderly : t.Every Orderly) (found : t.declarator = .ok d) :
    ∀ span ∈ d.name :: d.value.toList, span.Inside t.span := by
  obtain ⟨name, named, done⟩ := bind_ok found
  cases done
  refine List.forall_mem_cons.mpr ⟨field_inside orderly (required_eq_ok named), fun span value => ?_⟩
  obtain ⟨value, filled, rfl⟩ := Option.map_eq_some_iff.mp (Option.mem_toList.mp value)
  exact field_inside orderly filled

theorem declarators_inside (orderly : t.Every Orderly) (found : t.declarators = .ok ds) :
    ∀ d ∈ ds, ∀ span ∈ d.name :: d.value.toList, span.Inside t.span := by
  intro d listed span shown
  obtain ⟨child, declares, done⟩ := forall₂_mem (mapM_ok found) listed
  have part := (List.mem_filter.mp declares).1
  have inner := declarator_inside (orderly.below (mem_of_part part)) done span shown
  exact inner.trans (part_inside orderly part)

end Inside

section Laid

variable {level : Nat} {t child : Tree} {s : Statement}

theorem list_apart {ps : List Statement} (orderly : t.Every Orderly)
    (lowered : t.parts.mapM (lower level) = .ok ps) :
    (∀ p ∈ ps, ∃ child ∈ t.parts, lower level child = .ok p) ∧
      (∀ p ∈ ps, p.span.Inside t.span) ∧ ps.Pairwise fun p q => p.span.stop ≤ q.span.start := by
  have related := mapM_ok lowered
  have spans : t.parts.map span = ps.map Statement.span := by
    rw [← List.forall₂_eq_eq_eq, List.forall₂_map_left_iff, List.forall₂_map_right_iff]
    exact related.imp fun child p done => (span_of_lower done).symm
  refine ⟨fun p listed => forall₂_mem related listed, ?_, ?_⟩
  · intro p listed
    obtain ⟨child, part, done⟩ := forall₂_mem related listed
    rw [span_of_lower done]
    exact part_inside orderly part
  · have apart : t.parts.Pairwise fun a b => a.span.stop ≤ b.span.start :=
      orderly.here.apart.sublist List.filter_sublist
    have mapped : (t.parts.map span).Pairwise fun a b => a.stop ≤ b.start :=
      List.pairwise_map.mpr apart
    rw [spans] at mapped
    exact List.pairwise_map.mp mapped

theorem kind_of_conditional (form : formOf t.kind = .conditional) : t.kind = "if_statement" := by
  unfold formOf at form
  split at form
  case h_7 same => exact same
  all_goals cases form

theorem else_behind {consequence other : Tree} (orderly : t.Every Orderly)
    (conditional : t.kind = "if_statement") (filled : t.field? "consequence" = some consequence)
    (found : t.elseStatement? = some other) :
    other.span.Inside t.span ∧ consequence.span.stop ≤ other.span.start := by
  obtain ⟨clause, alternative, part⟩ := mem_of_else found
  have inner := part_inside (orderly.below (mem_of_field alternative)) part
  have sublist := orderly.here.branches conditional _ _ filled alternative
  have apart := List.pairwise_pair.mp (orderly.here.apart.sublist sublist)
  exact ⟨inner.trans (field_inside orderly alternative), Nat.le_trans apart inner.start⟩

theorem laid_of_lower (level : Nat) (t : Tree) {s : Statement} (orderly : t.Every Orderly)
    (lowered : lower level t = .ok s) : s.Laid := by
  have smaller {child : Tree} (inside : child ∈ t.children) {level : Nat} {p : Statement}
      (done : lower level child = .ok p) : p.Laid :=
    have := size_child inside
    laid_of_lower level child (orderly.below inside) done
  have ordered := orderly.here.ordered
  cases lower_becomes lowered with
  | program _ list | block _ list =>
    obtain ⟨below, inside, apart⟩ := list_apart orderly list
    refine .of_parts ordered nofun (fun p listed => ?_) inside apart
    obtain ⟨child, part, done⟩ := below p listed
    exact smaller (mem_of_part part) done
  | function _ named found done =>
    have inside := span_of_lower done ▸ field_inside orderly found
    exact .of_parts ordered (List.forall_mem_singleton.mpr (field_inside orderly named))
      (List.forall_mem_singleton.mpr (smaller (mem_of_field found) done))
      (List.forall_mem_singleton.mpr inside) (List.pairwise_singleton _ _)
  | declaration _ list =>
    refine .of_parts ordered (fun span shown => ?_) nofun nofun .nil
    obtain ⟨d, listed, named⟩ := List.mem_flatMap.mp shown
    exact declarators_inside orderly list d listed span named
  | @conditional test consequence consequent alternate form condition filled done other =>
    have shown : ∀ span ∈ [test], span.Inside t.span :=
      List.forall_mem_singleton.mpr (conditionSpan_inside orderly condition)
    have first := smaller (mem_of_field filled) done
    have inside := span_of_lower done ▸ field_inside orderly filled
    cases found : t.elseStatement? with
    | none =>
      rw [found] at other
      cases other
      exact .of_parts ordered shown (List.forall_mem_singleton.mpr first)
        (List.forall_mem_singleton.mpr inside) (List.pairwise_singleton _ _)
    | some s =>
      obtain ⟨clause, alternative, part⟩ := mem_of_else found
      have := size_child (mem_of_part part)
      have := size_child (mem_of_field alternative)
      rw [found, Option.mapM_some] at other
      cases result : lower (bodyLevel level s) s with
      | error fault =>
        rw [result] at other
        cases other
      | ok p =>
        rw [result] at other
        cases other
        have second := laid_of_lower (bodyLevel level s) s
          ((orderly.below (mem_of_field alternative)).below (mem_of_part part)) result
        obtain ⟨inner, behind⟩ := else_behind orderly (kind_of_conditional form) filled found
        rw [← span_of_lower result] at inner behind
        rw [← span_of_lower done] at behind
        exact .of_parts ordered shown
          (List.forall_mem_cons.mpr ⟨first, List.forall_mem_singleton.mpr second⟩)
          (List.forall_mem_cons.mpr ⟨inside, List.forall_mem_singleton.mpr inner⟩)
          (List.pairwise_pair.mpr behind)
  | loop _ condition found done =>
    have inside := span_of_lower done ▸ field_inside orderly found
    exact .of_parts ordered
      (List.forall_mem_singleton.mpr (conditionSpan_inside orderly condition))
      (List.forall_mem_singleton.mpr (smaller (mem_of_field found) done))
      (List.forall_mem_singleton.mpr inside) (List.pairwise_singleton _ _)
  | expression => exact .of_parts ordered (List.forall_mem_singleton.mpr (.refl _)) nofun nofun .nil
  | exit =>
    refine .of_parts ordered (fun span shown => ?_) nofun nofun .nil
    obtain ⟨part, first, rfl⟩ := Option.map_eq_some_iff.mp (Option.mem_toList.mp shown)
    exact part_inside orderly (List.mem_of_head? first)
  | unsupported => exact .of_parts ordered nofun nofun nofun .nil
termination_by t.size

end Laid

/-- The nodes of a chart are numbered in the order of the script. Each node is that of a statement, which
the walk visits when the graph has as many nodes as the node's number. A statement starts no later than
one whose node has a greater number, which is inside it or behind it, and every label shows places in its
own statement. -/
theorem chart_in_order {source : String} {level : Nat} {t : Tree} {s : Statement}
    {last : Option Nat} {g : Graph} (orderly : t.Every Orderly)
    (lowered : t.lower level = .ok s) (walked : Graph.empty.walk source s = (.ok last, g)) :
    g.nodes.toList.map some = s.charted.map (Statement.node? source) ∧
      (∀ v, Walk.Visit.Reaches source ⟨0, none, s, .empty⟩ v → v.statement.nodeKind?.isSome →
        s.charted[v.graph.nodes.size]? = some v.statement) ∧
      (∀ (i j : Nat) (a b : Statement), i < j → s.charted[i]? = some a → s.charted[j]? = some b →
        a.span.start ≤ b.span.start ∧ (b.span.Inside a.span ∨ a.span.stop ≤ b.span.start)) ∧
      ∀ a ∈ s.charted, ∀ shown ∈ a.labelSpans, shown.Inside a.span := by
  have laid := laid_of_lower level t orderly lowered
  refine ⟨?_, fun v reaches named => reaches.charted named, ?_, ?_⟩
  · rw [(Walk.walk_empty walked).1, Statement.nodes_charted]
  · intro i j a b before first second
    have apart : s.charted.Pairwise fun p q => p.span.Precedes q.span :=
      laid.apart.sublist List.filter_sublist
    obtain ⟨i_lt, rfl⟩ := List.getElem?_eq_some_iff.mp first
    obtain ⟨j_lt, rfl⟩ := List.getElem?_eq_some_iff.mp second
    have precedes := List.pairwise_iff_getElem.mp apart i j i_lt j_lt before
    exact ⟨precedes.start, precedes.nested⟩
  · exact fun a listed => laid.shown a (List.mem_filter.mp listed).1

/-- The tree of `if (x) y` and `else z` on two lines. The semicolon that a line break stands for has an
empty place. -/
def brokenTree : Tree :=
  sample "program" [] ⟨0, 15⟩ [sample "if_statement" [] ⟨0, 15⟩ [
    sample "parenthesized_expression" ["condition"] ⟨3, 6⟩ [sample "identifier" [] ⟨4, 5⟩ []],
    sample "expression_statement" ["consequence"] ⟨7, 8⟩ [sample "identifier" [] ⟨7, 8⟩ [],
      sample ";" [] ⟨8, 8⟩ []],
    sample "else_clause" ["alternative"] ⟨9, 15⟩ [
      sample "expression_statement" [] ⟨14, 15⟩ [sample "identifier" [] ⟨14, 15⟩ []]]]]

def brokenStatement : Statement :=
  .program ⟨0, 15⟩ [.conditional ⟨0, 15⟩ ⟨4, 5⟩ (.expression ⟨7, 8⟩) (some (.expression ⟨14, 15⟩))]

def brokenChart : Graph :=
  ⟨#[⟨"if (x)", .condition⟩, ⟨"y", .expression⟩, ⟨"z", .expression⟩],
    #[⟨0, 1, none⟩, ⟨0, 1, some .whenTrue⟩, ⟨0, 2, none⟩, ⟨0, 2, some .whenFalse⟩]⟩

theorem brokenTree_in_order :
    brokenTree.Every Orderly ∧ brokenTree.lower 0 = .ok brokenStatement ∧
      Graph.empty.walk "if (x) y\nelse z" brokenStatement = (.ok (some 0), brokenChart) ∧
      brokenChart.nodes.toList.map some =
        brokenStatement.charted.map (Statement.node? "if (x) y\nelse z") ∧
      ((⟨14, 15⟩ : Span).Inside ⟨7, 8⟩ ∨ 8 ≤ 14) := by
  have orderly : brokenTree.Every Orderly := by
    simp [Every, EveryIn, orderly_iff, Span.inside_iff, brokenTree, sample, children, span, info, kind,
      field?]
  have lowered : brokenTree.lower 0 = .ok brokenStatement := rfl
  have walked : Graph.empty.walk "if (x) y\nelse z" brokenStatement =
      (.ok (some 0), brokenChart) := by decide +kernel
  obtain ⟨built, _, ordered, _⟩ := chart_in_order orderly lowered walked
  have behind := ordered 1 2 (.expression ⟨7, 8⟩) (.expression ⟨14, 15⟩) (by decide) rfl rfl
  exact ⟨orderly, lowered, walked, built, behind.2⟩

end Tree

end Flowchart
