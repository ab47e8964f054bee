import Flowchart.Proofs.Statement.Table
import Mathlib.Tactic.MkIffOfInductiveProp

/-! The places of statements. A statement whose parts lie apart from each other, in order and inside it,
has all statements below it in order. -/
namespace Flowchart

namespace Span

@[mk_iff]
structure Inside (inner outer : Span) : Prop where
  start : outer.start ≤ inner.start
  stop : inner.stop ≤ outer.stop

/-- A range that starts no later than another, which is inside it or behind it. -/
structure Precedes (first second : Span) : Prop where
  start : first.start ≤ second.start
  nested : second.Inside first ∨ first.stop ≤ second.start

theorem Inside.refl (span : Span) : span.Inside span := ⟨Nat.le_refl _, Nat.le_refl _⟩

theorem Inside.trans {inner middle outer : Span} (first : inner.Inside middle)
    (second : middle.Inside outer) : inner.Inside outer :=
  ⟨Nat.le_trans second.start first.start, Nat.le_trans first.stop second.stop⟩

end Span

namespace Statement

/-- The statements that a statement is made of, in order. -/
def parts : Statement → List Statement
  | program _ body | block _ body => body
  | function _ _ body | loop _ _ body => [body]
  | conditional _ _ consequent alternate => consequent :: alternate.toList
  | declaration .. | expression _ | exit .. | unsupported .. => []

/-- The statements of a tree that have a node, each before its parts. -/
def charted (s : Statement) : List Statement := s.preorder.filter fun p => p.nodeKind?.isSome

theorem preorderAll_eq (ss : List Statement) : preorderAll ss = ss.flatMap preorder := by
  induction ss with
  | nil => rfl
  | cons s rest ih => rw [preorderAll, ih, List.flatMap_cons]

theorem preorder_eq (s : Statement) : s.preorder = s :: s.parts.flatMap preorder := by
  cases s with
  | program _ body | block _ body => rw [preorder, parts, preorderAll_eq]
  | function _ _ body | loop _ _ body => simp [preorder, parts]
  | conditional _ _ consequent alternate => cases alternate <;> simp [preorder, parts]
  | declaration _ _ | expression _ | exit _ _ | unsupported _ _ => rfl

/-- What a statement shows and what stands in it has its place inside it, and its statements are in
order. -/
structure Laid (s : Statement) : Prop where
  ordered : ∀ p ∈ s.preorder, p.span.start ≤ p.span.stop
  inside : ∀ p ∈ s.preorder, p.span.Inside s.span
  shown : ∀ p ∈ s.preorder, ∀ span ∈ p.labelSpans, span.Inside p.span
  apart : s.preorder.Pairwise fun p q => p.span.Precedes q.span

variable {s p q : Statement} {ps : List Statement}

theorem Laid.precedes (first : p.Laid) (second : q.Laid) (behind : p.span.stop ≤ q.span.start)
    {a b : Statement} (left : a ∈ p.preorder) (right : b ∈ q.preorder) :
    a.span.Precedes b.span := by
  have order := first.ordered a left
  have before := (first.inside a left).stop
  have after := (second.inside b right).start
  exact ⟨by omega, .inr (by omega)⟩

theorem laid_all (laid : ∀ p ∈ ps, p.Laid)
    (apart : ps.Pairwise fun p q => p.span.stop ≤ q.span.start) :
    (ps.flatMap preorder).Pairwise fun p q => p.span.Precedes q.span := by
  rw [List.pairwise_flatMap]
  refine ⟨fun p listed => (laid p listed).apart, apart.imp_of_mem ?_⟩
  intro p q first second behind a left b right
  exact (laid p first).precedes (laid q second) behind left right

/-- A statement is laid if its parts are, in order and inside it. -/
theorem Laid.of_parts (ordered : s.span.start ≤ s.span.stop)
    (shown : ∀ span ∈ s.labelSpans, span.Inside s.span)
    (laid : ∀ p ∈ s.parts, p.Laid) (inside : ∀ p ∈ s.parts, p.span.Inside s.span)
    (apart : s.parts.Pairwise fun p q => p.span.stop ≤ q.span.start) : s.Laid := by
  have below {q : Statement} (listed : q ∈ s.parts.flatMap preorder) :
      ∃ p ∈ s.parts, q ∈ p.preorder := List.mem_flatMap.mp listed
  have within {q : Statement} (listed : q ∈ s.parts.flatMap preorder) : q.span.Inside s.span := by
    obtain ⟨p, part, member⟩ := below listed
    exact ((laid p part).inside q member).trans (inside p part)
  have order := s.preorder_eq
  constructor <;> rw [order]
  · refine List.forall_mem_cons.mpr ⟨ordered, fun q listed => ?_⟩
    obtain ⟨p, part, member⟩ := below listed
    exact (laid p part).ordered q member
  · exact List.forall_mem_cons.mpr ⟨.refl _, fun q listed => within listed⟩
  · refine List.forall_mem_cons.mpr ⟨shown, fun q listed => ?_⟩
    obtain ⟨p, part, member⟩ := below listed
    exact (laid p part).shown q member
  · refine List.pairwise_cons.mpr ⟨fun q listed => ?_, laid_all laid apart⟩
    have nested := within listed
    exact ⟨nested.start, .inl nested⟩

theorem charted_at {before after : List Statement} (split : s.preorder = before ++ p.preorder ++ after)
    (named : p.nodeKind?.isSome) : s.charted[(before.filterMap nodeKind?).length]? = some p := by
  have count : (before.filterMap nodeKind?).length =
      (before.filter fun q => q.nodeKind?.isSome).length := by
    rw [List.length_filterMap_eq_countP, List.countP_eq_length_filter]
  rw [charted, split, List.append_assoc, List.filter_append, count,
    List.getElem?_append_right (Nat.le_refl _), Nat.sub_self, preorder_eq, List.cons_append,
    List.filter_cons_of_pos (p := fun q : Statement => q.nodeKind?.isSome) named]
  rfl

/-- The nodes of a tree are those of its charted statements, one for each. -/
theorem nodes_charted (source : String) (s : Statement) :
    (s.nodes source).map some = s.charted.map (node? source) := by
  rw [nodes, charted]
  induction s.preorder with
  | nil => rfl
  | cons p rest ih =>
    cases kind : p.nodeKind? with
    | none =>
      have none : p.node? source = none := by rw [node?, kind]; rfl
      rw [List.filterMap_cons_none none, List.filter_cons_of_neg (by rw [kind]; decide), ih]
    | some k =>
      have some : p.node? source = some ⟨escapeLabel (p.label source), k⟩ := by
        rw [node?, kind]
        rfl
      rw [List.filterMap_cons_some some, List.filter_cons_of_pos (by rw [kind]; rfl), List.map_cons,
        List.map_cons, ih, some]

end Statement

end Flowchart
