import Mathlib.Data.List.Find
import Flowchart.Proofs.Tree.Lowered
import Flowchart.Proofs.Tree.Lowering

/-! Skeletons of trees: comments, words and signs are left out, and so is all that lies below expression
statements, unsupported ones, declared names and values, returned values and conditions without their
parentheses. Trees with the same skeleton are lowered to the same. -/
namespace Flowchart.Tree

/-- What may be wanted of a node: the statement that it stands for, the first statement in it, or the
nodes right below it. -/
structure Wanted where
  statement : Bool
  first : Bool
  frame : Bool

namespace Wanted

/-- Whether anything below a node of a form is wanted. -/
def keeps (w : Wanted) (form : Form) : Bool :=
  w.first || w.frame || (w.statement && form != .expression && form != .unsupported)

/-- The children of a statement that are statements in turn. -/
def isStatement (form : Form) (child : NodeInfo) : Bool :=
  match form with
  | .program | .block => true
  | .function | .loop => child.fields.contains "body"
  | .conditional => child.fields.contains "consequence"
  | .declaration | .expression | .exit | .unsupported => false

/-- The children of a statement whose own children it looks at: conditions in parentheses, and names
with their values. -/
def isFrame (form : Form) (child : NodeInfo) : Bool :=
  match form with
  | .conditional | .loop =>
    child.fields.contains "condition" && child.kind == "parenthesized_expression"
  | .declaration => child.kind == "variable_declarator"
  | .program | .block | .function | .expression | .exit | .unsupported => false

def ofChild (w : Wanted) (form : Form) (child : NodeInfo) : Wanted where
  statement := w.first || (w.statement && isStatement form child)
  first := w.statement && form == .conditional && child.fields.contains "alternative"
  frame := w.statement && isFrame form child

end Wanted

/-- Comments are no part of a skeleton, nor is what has no name and fills no field. -/
def isKept (t : Tree) : Bool := !t.info.extra && (t.info.named || !t.info.fields.isEmpty)

mutual

/-- What is kept of a node of which something is wanted. The mark of faults below it is dropped, as it
tells of what is left out. -/
def skeletonOf (w : Wanted) : Tree → Tree
  | node info children =>
    node { info with faulty := false }
      (if w.keeps (formOf info.kind) then skeletonIn w (formOf info.kind) children else [])

def skeletonIn (w : Wanted) (form : Form) : List Tree → List Tree
  | [] => []
  | child :: rest =>
    if child.isKept then skeletonOf (w.ofChild form child.info) child :: skeletonIn w form rest
    else skeletonIn w form rest

end

def skeleton (t : Tree) : Tree := skeletonOf ⟨true, false, false⟩ t

mutual

def uncommented : Tree → Tree
  | node info children => node info (uncommentedIn children)

def uncommentedIn : List Tree → List Tree
  | [] => []
  | child :: rest =>
    if child.info.extra then uncommentedIn rest else uncommented child :: uncommentedIn rest

end

/-- A comment fills no field. -/
def Aside (t : Tree) : Prop := t.info.extra → t.info.fields = []

variable {w : Wanted} {level : Nat} {t child : Tree} {name : String}

theorem skeletonIn_eq (w : Wanted) (form : Form) (ts : List Tree) : skeletonIn w form ts =
    (ts.filter isKept).map fun child => skeletonOf (w.ofChild form child.info) child := by
  induction ts with
  | nil => rfl
  | cons child rest ih =>
    rw [skeletonIn]
    split
    · rename_i kept
      rw [List.filter_cons_of_pos kept, List.map_cons, ih]
    · rename_i dropped
      rw [List.filter_cons_of_neg dropped, ih]

@[simp] theorem info_skeletonOf (w : Wanted) (t : Tree) :
    (skeletonOf w t).info = { t.info with faulty := false } := by
  cases t
  rw [skeletonOf]
  rfl

@[simp] theorem kind_skeletonOf (w : Wanted) (t : Tree) : (skeletonOf w t).kind = t.kind := by
  rw [kind, info_skeletonOf]
  rfl

@[simp] theorem span_skeletonOf (w : Wanted) (t : Tree) : (skeletonOf w t).span = t.span := by
  rw [span, info_skeletonOf]
  rfl

@[simp] theorem isPart_skeletonOf (w : Wanted) (t : Tree) : (skeletonOf w t).isPart = t.isPart := by
  rw [isPart, info_skeletonOf]
  rfl

@[simp] theorem lacks_skeletonOf (w : Wanted) (t : Tree) (field : String) :
    (skeletonOf w t).lacks field = t.lacks field := by
  simp only [lacks, faultAt, info_skeletonOf, kind_skeletonOf]

def keptOf (w : Wanted) (t child : Tree) : Tree :=
  skeletonOf (w.ofChild (formOf t.kind) child.info) child

theorem children_skeletonOf (keeps : w.keeps (formOf t.kind)) :
    (skeletonOf w t).children = (t.children.filter isKept).map (keptOf w t) := by
  obtain ⟨info, children⟩ := t
  have kept : w.keeps (formOf info.kind) := keeps
  rw [skeletonOf, if_pos kept, skeletonIn_eq]
  rfl

theorem isKept_of_isPart (part : t.isPart) : t.isKept := by
  obtain ⟨named, read⟩ := Bool.and_eq_true_iff.mp part
  rw [isKept, named, read]
  rfl

theorem isKept_of_fills (aside : t.Aside) (fills : t.info.fields.contains name) : t.isKept := by
  have filled : t.info.fields ≠ [] := by
    intro none
    rw [none] at fills
    cases fills
  have read : t.info.extra = false := Bool.eq_false_iff.mpr fun extra => filled (aside extra)
  rw [isKept, read, List.isEmpty_eq_false_iff.mpr filled]
  exact Bool.or_true _

theorem parts_skeletonOf (keeps : w.keeps (formOf t.kind)) :
    (skeletonOf w t).parts = t.parts.map (keptOf w t) := by
  rw [parts, children_skeletonOf keeps, List.filter_map, List.filter_filter, parts]
  congr 1
  apply List.filter_congr
  intro child _
  rw [Function.comp_apply, keptOf, isPart_skeletonOf]
  cases part : child.isPart with
  | true => rw [isKept_of_isPart part, Bool.and_true]
  | false => rfl

theorem field?_skeletonOf (name : String) (keeps : w.keeps (formOf t.kind)) (asides : t.Every Aside) :
    (skeletonOf w t).field? name = (t.field? name).map (keptOf w t) := by
  rw [field?, children_skeletonOf keeps, List.find?_map, List.find?_filter, field?]
  congr 1
  apply List.find?_congr
  intro child member
  rw [Function.comp_apply, keptOf, info_skeletonOf]
  cases fills : child.info.fields.contains name with
  | true => simp only [isKept_of_fills (asides.below member).here fills, and_self, decide_true]
  | false => simp only [Bool.false_eq_true, and_false, decide_false]

theorem required_skeletonOf (name : String) (keeps : w.keeps (formOf t.kind)) (asides : t.Every Aside) :
    (skeletonOf w t).required name = (t.required name).map (keptOf w t) := by
  rw [required, field?_skeletonOf name keeps asides, lacks_skeletonOf, required]
  cases t.field? name <;> rfl

theorem conditionSpan_skeletonOf (statement : w.statement)
    (form : formOf t.kind = .conditional ∨ formOf t.kind = .loop) (asides : t.Every Aside) :
    (skeletonOf w t).conditionSpan = t.conditionSpan := by
  have keeps : w.keeps (formOf t.kind) := by
    rcases form with form | form <;> simp [Wanted.keeps, statement, form]
  rw [conditionSpan, required_skeletonOf _ keeps asides, conditionSpan]
  cases found : t.required "condition" with
  | error fault => rfl
  | ok condition =>
    have fills := fills_of_field (required_eq_ok found)
    -- Only parentheses are looked into, so only they need a frame.
    by_cases wrapped : condition.kind = "parenthesized_expression"
    · have frame : (w.ofChild (formOf t.kind) condition.info).frame := by
        have kind : condition.info.kind = "parenthesized_expression" := wrapped
        rcases form with form | form <;>
          simp [Wanted.ofChild, Wanted.isFrame, statement, form, fills, kind]
      have parts : (keptOf w t condition).parts = condition.parts.map (keptOf _ condition) :=
        parts_skeletonOf (by simp [Wanted.keeps, frame])
      simp only [Except.map, bind, Except.bind, parts]
      cases condition.parts with
      | nil => simp [keptOf]
      | cons inner _ => simp [keptOf]
    · simp [Except.map, bind, Except.bind, keptOf, wrapped]

theorem mapM_congr {α : Type} {f g : Tree → Except Fault α} {ts : List Tree}
    (same : ∀ child ∈ ts, f child = g child) : ts.mapM f = ts.mapM g := by
  induction ts with
  | nil => rfl
  | cons child rest ih =>
    rw [List.mapM_cons, List.mapM_cons, same child List.mem_cons_self,
      ih fun other later => same other (List.mem_cons_of_mem _ later)]

theorem declarator_skeletonOf (frame : w.frame) (asides : t.Every Aside) :
    (skeletonOf w t).declarator = t.declarator := by
  have keeps : w.keeps (formOf t.kind) := by simp [Wanted.keeps, frame]
  have value : ((skeletonOf w t).field? "value").map span = (t.field? "value").map span := by
    rw [field?_skeletonOf _ keeps asides, Option.map_map]
    congr 1
    funext child
    exact span_skeletonOf _ child
  rw [declarator, required_skeletonOf _ keeps asides, declarator, value]
  cases t.required "name" with
  | error fault => rfl
  | ok name => simp [Except.map, bind, Except.bind, keptOf]

theorem declarators_skeletonOf (statement : w.statement) (form : formOf t.kind = .declaration)
    (asides : t.Every Aside) : (skeletonOf w t).declarators = t.declarators := by
  have keeps : w.keeps (formOf t.kind) := by simp [Wanted.keeps, statement, form]
  rw [declarators, parts_skeletonOf keeps, List.filter_map, List.mapM_map, declarators]
  have kinds : ((fun child : Tree => child.kind == "variable_declarator") ∘ keptOf w t) =
      fun child => child.kind == "variable_declarator" := by
    funext child
    simp [keptOf]
  rw [kinds]
  apply mapM_congr
  intro child listed
  obtain ⟨part, declares⟩ := List.mem_filter.mp listed
  have frame : (w.ofChild (formOf t.kind) child.info).frame := by
    have kind : child.info.kind = "variable_declarator" := eq_of_beq declares
    simp [Wanted.ofChild, Wanted.isFrame, statement, form, kind]
  exact declarator_skeletonOf frame (asides.below (mem_of_part part))

theorem elseStatement?_skeletonOf (statement : w.statement)
    (form : formOf t.kind = .conditional) (asides : t.Every Aside) :
    ∃ v : Tree → Wanted, (∀ s, (v s).statement) ∧
      (skeletonOf w t).elseStatement? = t.elseStatement?.map fun s => skeletonOf (v s) s := by
  have keeps : w.keeps (formOf t.kind) := by simp [Wanted.keeps, statement, form]
  rw [elseStatement?, field?_skeletonOf _ keeps asides, elseStatement?]
  cases found : t.field? "alternative" with
  | none => exact ⟨fun _ => ⟨true, false, false⟩, fun _ => rfl, rfl⟩
  | some clause =>
    have first : (w.ofChild (formOf t.kind) clause.info).first := by
      have fills := fills_of_field found
      simp [Wanted.ofChild, statement, form, fills]
    refine ⟨fun s => (w.ofChild (formOf t.kind) clause.info).ofChild (formOf clause.kind) s.info,
      fun s => ?_, ?_⟩
    · exact Bool.or_eq_true_iff.mpr (.inl first)
    · have parts : (keptOf w t clause).parts = clause.parts.map (keptOf _ clause) :=
        parts_skeletonOf (by simp [Wanted.keeps, first])
      rw [Option.map_some, Option.bind_some, parts, List.head?_map]
      rfl

section Below

variable {below : Nat → Tree → Except Fault Statement} {field : String}

/-- The nodes below a node become the same as what is kept of them. -/
def Agrees (below : Nat → Tree → Except Fault Statement) (t : Tree) : Prop :=
  ∀ (v : Wanted) (child : Tree) (level : Nat), child.size < t.size → v.statement →
    child.Every Aside → below level (skeletonOf v child) = below level child

theorem Agrees.list (agrees : Agrees below t) (statement : w.statement)
    (form : formOf t.kind = .program ∨ formOf t.kind = .block) (asides : t.Every Aside) :
    (skeletonOf w t).parts.mapM (below level) = t.parts.mapM (below level) := by
  have keeps : w.keeps (formOf t.kind) := by
    rcases form with form | form <;> simp [Wanted.keeps, statement, form]
  rw [parts_skeletonOf keeps, List.mapM_map]
  apply mapM_congr
  intro child part
  have inside := mem_of_part part
  have wanted : (w.ofChild (formOf t.kind) child.info).statement := by
    rcases form with form | form <;>
      simp [Wanted.ofChild, Wanted.isStatement, statement, form]
  exact agrees _ child level (size_child inside) wanted (asides.below inside)

theorem Agrees.body (level : Nat) (agrees : Agrees below t) (statement : w.statement)
    (found : t.required field = .ok child)
    (same : Wanted.isStatement (formOf t.kind) child.info = child.info.fields.contains field)
    (asides : t.Every Aside) :
    below (bodyLevel level (keptOf w t child)) (keptOf w t child) =
      below (bodyLevel level child) child := by
  have filled := required_eq_ok found
  have inside := mem_of_field filled
  have wanted : (w.ofChild (formOf t.kind) child.info).statement := by
    simp [Wanted.ofChild, statement, same, fills_of_field filled]
  rw [bodyLevel, keptOf, kind_skeletonOf]
  exact agrees _ child _ (size_child inside) wanted (asides.below inside)

theorem Agrees.alternate (agrees : Agrees below t) (statement : w.statement)
    (form : formOf t.kind = .conditional) (asides : t.Every Aside) :
    ((skeletonOf w t).elseStatement?.mapM fun s => below (bodyLevel level s) s) =
      t.elseStatement?.mapM fun s => below (bodyLevel level s) s := by
  obtain ⟨v, stated, other⟩ := elseStatement?_skeletonOf statement form asides
  rw [other]
  cases found : t.elseStatement? with
  | none => rfl
  | some s =>
    obtain ⟨clause, filled, listed⟩ := mem_of_else found
    have smaller := (size_child (mem_of_part listed)).trans (size_child (mem_of_field filled))
    have same := agrees (v s) s (bodyLevel level s) smaller (stated s)
      ((asides.below (mem_of_field filled)).below (mem_of_part listed))
    rw [Option.map_some, Option.mapM_some, Option.mapM_some, bodyLevel, kind_skeletonOf]
    exact congrArg (some <$> ·) same

theorem argument_skeletonOf (statement : w.statement) (form : formOf t.kind = .exit) :
    (skeletonOf w t).parts.head?.map span = t.parts.head?.map span := by
  have keeps : w.keeps (formOf t.kind) := by simp [Wanted.keeps, statement, form]
  rw [parts_skeletonOf keeps, List.head?_map, Option.map_map]
  congr 1
  funext child
  exact span_skeletonOf _ child

theorem lowerOver_skeletonOf (agrees : Agrees below t) (statement : w.statement)
    (asides : t.Every Aside) :
    lowerOver below level (skeletonOf w t) = lowerOver below level t := by
  rw [lowerOver, lowerOver]
  simp only [kind_skeletonOf, span_skeletonOf, info_skeletonOf]
  congr 1
  cases form : formOf t.kind with
  | program => simp only [agrees.list statement (.inl form) asides]
  | block => simp only [agrees.list statement (.inr form) asides]
  | function =>
    have keeps : w.keeps (formOf t.kind) := by simp [Wanted.keeps, statement, form]
    dsimp only
    rw [required_skeletonOf "name" keeps asides, required_skeletonOf "body" keeps asides]
    cases t.required "name" with
    | error fault => rfl
    | ok name =>
      cases found : t.required "body" with
      | error fault => rfl
      | ok child =>
        have name : (keptOf w t name).span = name.span := span_skeletonOf _ name
        have lowered := agrees.body level statement found (by rw [form]; rfl) asides
        simp only [Except.map, bind, Except.bind, name, lowered]
  | declaration => simp only [declarators_skeletonOf statement form asides]
  | conditional =>
    have keeps : w.keeps (formOf t.kind) := by simp [Wanted.keeps, statement, form]
    dsimp only
    rw [required_skeletonOf "consequence" keeps asides,
      agrees.alternate statement form asides,
      conditionSpan_skeletonOf statement (.inl form) asides]
    cases found : t.required "consequence" with
    | error fault => rfl
    | ok child =>
      have lowered := agrees.body level statement found (by rw [form]; rfl) asides
      simp only [Except.map, bind, Except.bind, lowered]
  | loop =>
    have keeps : w.keeps (formOf t.kind) := by simp [Wanted.keeps, statement, form]
    dsimp only
    rw [required_skeletonOf "body" keeps asides,
      conditionSpan_skeletonOf statement (.inr form) asides]
    cases found : t.required "body" with
    | error fault => rfl
    | ok child =>
      have lowered := agrees.body level statement found (by rw [form]; rfl) asides
      simp only [Except.map, bind, Except.bind, lowered]
  | exit => simp only [argument_skeletonOf statement form]
  | expression | unsupported => rfl

end Below

/-- What is kept of a statement is lowered to the same. -/
theorem lower_skeletonOf (w : Wanted) (t : Tree) (level : Nat) (statement : w.statement)
    (asides : t.Every Aside) : lower level (skeletonOf w t) = lower level t := by
  -- By size, as what follows `else` is no child of the conditional.
  have agrees : Agrees lower t := fun v child level smaller statement asides =>
    lower_skeletonOf v child level statement asides
  rw [lower_eq, lower_eq, lowerOver_skeletonOf agrees statement asides]
termination_by t.size

section Uncommented

@[simp] theorem info_uncommented (t : Tree) : t.uncommented.info = t.info := by
  cases t
  rw [uncommented]
  rfl

mutual

theorem skeletonOf_uncommented (w : Wanted) :
    ∀ t : Tree, skeletonOf w t.uncommented = skeletonOf w t
  | node info children => by
    rw [uncommented, skeletonOf, skeletonOf, skeletonIn_uncommented]

theorem skeletonIn_uncommented (w : Wanted) (form : Form) :
    ∀ ts : List Tree, skeletonIn w form (uncommentedIn ts) = skeletonIn w form ts
  | [] => rfl
  | child :: rest => by
    have later := skeletonIn_uncommented w form rest
    rw [uncommentedIn, skeletonIn]
    cases extra : child.info.extra with
    | true =>
      have dropped : child.isKept = false := by rw [isKept, extra]; rfl
      rw [if_pos rfl, dropped]
      exact later
    | false =>
      have same : child.uncommented.isKept = child.isKept := by
        rw [isKept, info_uncommented, isKept]
      rw [if_neg Bool.false_ne_true, skeletonIn, same, info_uncommented, later,
        skeletonOf_uncommented _ child]

end

end Uncommented

/-- Trees with the same skeleton are lowered to the same statement or to the same fault. So are trees
that differ by comments, wherever these stand. -/
theorem skeleton_decides {t u : Tree} (level : Nat) (asides : t.Every Aside)
    (others : u.Every Aside) :
    (t.skeleton = u.skeleton → lower level t = lower level u) ∧
      (t.uncommented = u.uncommented → lower level t = lower level u) := by
  have decides (same : t.skeleton = u.skeleton) : lower level t = lower level u :=
    calc
      lower level t = lower level t.skeleton := (lower_skeletonOf _ t level rfl asides).symm
      _ = lower level u.skeleton := congrArg (lower level) same
      _ = lower level u := lower_skeletonOf _ u level rfl others
  refine ⟨decides, fun same => decides ?_⟩
  calc
    t.skeleton = t.uncommented.skeleton := (skeletonOf_uncommented _ t).symm
    _ = u.uncommented.skeleton := congrArg skeleton same
    _ = u.skeleton := skeletonOf_uncommented _ u

def comment (span : Span) : Tree :=
  node ⟨"comment", true, true, .read, false, [], span, 0, span.start⟩ []

def word (text : String) (span : Span) : Tree :=
  node ⟨text, false, false, .read, false, [], span, 0, span.start⟩ []

/-- The tree of `if (/*?*/ x) /*!*/ f(); else /*?*/ return /*!*/ y;`. -/
def remarkedTree : Tree :=
  sample "program" [] ⟨0, 50⟩ [sample "if_statement" [] ⟨0, 50⟩ [word "if" ⟨0, 2⟩,
    sample "parenthesized_expression" ["condition"] ⟨3, 12⟩ [word "(" ⟨3, 4⟩, comment ⟨4, 9⟩,
      sample "identifier" [] ⟨10, 11⟩ [], word ")" ⟨11, 12⟩],
    comment ⟨13, 18⟩,
    sample "expression_statement" ["consequence"] ⟨19, 23⟩ [
      sample "call_expression" [] ⟨19, 22⟩ [sample "identifier" ["function"] ⟨19, 20⟩ [],
        sample "arguments" ["arguments"] ⟨20, 22⟩ []], word ";" ⟨22, 23⟩],
    sample "else_clause" ["alternative"] ⟨24, 50⟩ [word "else" ⟨24, 28⟩, comment ⟨29, 34⟩,
      sample "return_statement" [] ⟨35, 50⟩ [word "return" ⟨35, 41⟩, comment ⟨42, 47⟩,
        sample "identifier" [] ⟨48, 49⟩ [], word ";" ⟨49, 50⟩]]]]

/-- The same places, without words and comments, and with other expressions in them. -/
def bareTree : Tree :=
  sample "program" [] ⟨0, 50⟩ [sample "if_statement" [] ⟨0, 50⟩ [
    sample "parenthesized_expression" ["condition"] ⟨3, 12⟩ [sample "identifier" [] ⟨10, 11⟩ []],
    sample "expression_statement" ["consequence"] ⟨19, 23⟩ [sample "number" [] ⟨19, 20⟩ []],
    sample "else_clause" ["alternative"] ⟨24, 50⟩ [sample "return_statement" [] ⟨35, 50⟩ [
      sample "identifier" [] ⟨48, 49⟩ [sample "number" [] ⟨48, 49⟩ []]]]]]

theorem remarkedTree_decided :
    remarkedTree.skeleton = bareTree.skeleton ∧
      lower 0 remarkedTree = lower 0 bareTree ∧
      lower 0 remarkedTree = lower 0 remarkedTree.uncommented ∧
      lower 0 bareTree = .ok (.program ⟨0, 50⟩ [.conditional ⟨0, 50⟩ ⟨10, 11⟩
        (.expression ⟨19, 23⟩) (some (.exit ⟨35, 50⟩ (some ⟨48, 49⟩)))]) := by
  have asides : remarkedTree.Every Aside := by
    simp [Every, EveryIn, Aside, remarkedTree, sample, comment, word, info]
  have bare : bareTree.Every Aside := by
    simp [Every, EveryIn, Aside, bareTree, sample, info]
  have uncommented : remarkedTree.uncommented.Every Aside := by
    simp [Every, EveryIn, Aside, Tree.uncommented, uncommentedIn, remarkedTree, sample, comment,
      word, info]
  have same : remarkedTree.skeleton = bareTree.skeleton := rfl
  exact ⟨same, (skeleton_decides 0 asides bare).1 same,
    (skeleton_decides 0 asides uncommented).2 rfl, rfl⟩

end Flowchart.Tree
