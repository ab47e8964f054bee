import Flowchart.Tree.Lowering
import Mathlib.Data.List.Forall2

/-! Lowering node by node. What a node becomes is told by what the nodes below it become, so facts about
lowering are shown by induction on the size of a tree. -/
namespace Flowchart.Tree

mutual

/-- Every node of a tree has a property. -/
def Every (p : Tree → Prop) : Tree → Prop
  | node info children => p (node info children) ∧ EveryIn p children

def EveryIn (p : Tree → Prop) : List Tree → Prop
  | [] => True
  | t :: rest => Every p t ∧ EveryIn p rest

end

inductive Form
  | program
  | block
  | function
  | declaration
  | conditional
  | loop
  | expression
  | exit
  | unsupported
deriving DecidableEq

def formOf : String → Form
  | "program" => .program
  | "statement_block" => .block
  | "function_declaration" | "generator_function_declaration" => .function
  | "lexical_declaration" | "variable_declaration" => .declaration
  | "if_statement" => .conditional
  | "while_statement" => .loop
  | "expression_statement" => .expression
  | "return_statement" => .exit
  | _ => .unsupported

/-- The statement after `else`. -/
def elseStatement? (t : Tree) : Option Tree :=
  (t.field? "alternative").bind fun clause => clause.parts.head?

/-- Lowering one node, when it is known what becomes of the nodes below it. -/
def lowerOver (below : Nat → Tree → Except Fault Statement) (level : Nat) (t : Tree) :
    Except Fault Statement := do
  if statementLimit < level then throw (.tooDeep statementLimit t.info.row)
  match formOf t.kind with
  | .program => return .program t.span (← t.parts.mapM (below (level + 1)))
  | .block => return .block t.span (← t.parts.mapM (below (level + 1)))
  | .function =>
    let name ← t.required "name"
    let body ← t.required "body"
    return .function t.span name.span (← below (bodyLevel level body) body)
  | .declaration => return .declaration t.span (← t.declarators)
  | .conditional =>
    let consequence ← t.required "consequence"
    let alternate ← t.elseStatement?.mapM fun s => below (bodyLevel level s) s
    let test ← t.conditionSpan
    return .conditional t.span test (← below (bodyLevel level consequence) consequence) alternate
  | .loop =>
    let body ← t.required "body"
    let test ← t.conditionSpan
    return .loop t.span test (← below (bodyLevel level body) body)
  | .expression => return .expression t.span
  | .exit => return .exit t.span (t.parts.head?.map span)
  | .unsupported => return .unsupported t.span t.kind

section Every

variable {p : Tree → Prop} {t child : Tree} {ts : List Tree}

theorem EveryIn.mem (every : EveryIn p ts) (member : child ∈ ts) : child.Every p := by
  induction member with
  | head => exact every.1
  | tail _ _ ih => exact ih every.2

theorem Every.here (every : t.Every p) : p t := by
  cases t
  exact every.1

theorem Every.below (every : t.Every p) (member : child ∈ t.children) : child.Every p := by
  cases t
  exact every.2.mem member

end Every

section Size

variable {t child clause : Tree} {ts : List Tree} {name : String}

theorem size_le_sizeAll (member : child ∈ ts) : child.size ≤ sizeAll ts := by
  induction member with
  | head => exact Nat.le_add_right _ _
  | tail _ _ ih => exact Nat.le_trans ih (Nat.le_add_left _ _)

theorem size_child (member : child ∈ t.children) : child.size < t.size := by
  cases t
  exact Nat.lt_succ_of_le (size_le_sizeAll member)

theorem mem_of_part (member : child ∈ t.parts) : child ∈ t.children := (List.mem_filter.mp member).1

theorem mem_of_field (found : t.field? name = some child) : child ∈ t.children :=
  List.mem_of_find?_eq_some found

theorem fills_of_field (found : t.field? name = some child) : name ∈ child.info.fields := by
  have fills := List.find?_some found
  exact List.contains_iff_mem.mp fills

theorem required_eq_ok (found : t.required name = .ok child) : t.field? name = some child := by
  rw [required] at found
  split at found
  · rename_i filled
    cases found
    exact filled
  · cases found

theorem mem_of_else (found : t.elseStatement? = some child) :
    ∃ clause, t.field? "alternative" = some clause ∧ child ∈ clause.parts := by
  obtain ⟨clause, filled, first⟩ := Option.bind_eq_some_iff.mp found
  exact ⟨clause, filled, List.mem_of_head? first⟩

end Size

section Parts

variable {level : Nat} {t : Tree} {ts : List Tree} {field : String}

theorem lowerAll_eq (level : Nat) (ts : List Tree) :
    lowerAll level ts = (ts.filter isPart).mapM (lower level) := by
  induction ts with
  | nil => rfl
  | cons child rest ih =>
    rw [lowerAll]
    split
    · rename_i part
      rw [List.filter_cons_of_pos part, List.mapM_cons, ih]
    · rename_i other
      rw [List.filter_cons_of_neg other, ih]

theorem lowerField_eq (level : Nat) (field : String) (ts : List Tree) :
    lowerField level field ts =
      (ts.find? fun child => child.info.fields.contains field).map fun child =>
        lower (bodyLevel level child) child := by
  induction ts with
  | nil => rfl
  | cons child rest ih =>
    rw [lowerField, List.find?_cons]
    cases child.info.fields.contains field with
    | true => rfl
    | false => exact ih

theorem lowerFirst_eq (level : Nat) (ts : List Tree) :
    lowerFirst level ts =
      (ts.filter isPart).head?.mapM fun child => lower (bodyLevel level child) child := by
  induction ts with
  | nil => rfl
  | cons child rest ih =>
    rw [lowerFirst]
    split
    · rename_i part
      rw [List.filter_cons_of_pos part]
      rfl
    · rename_i other
      rw [List.filter_cons_of_neg other, ih]

theorem lowerElse_eq (level : Nat) (ts : List Tree) :
    (lowerElse level ts).getD (pure none) =
      ((ts.find? fun child => child.info.fields.contains "alternative").bind fun clause =>
        clause.parts.head?).mapM fun child => lower (bodyLevel level child) child := by
  induction ts with
  | nil => rfl
  | cons child rest ih =>
    obtain ⟨info, children⟩ := child
    have here : (node info children).info = info := rfl
    rw [lowerElse, List.find?_cons, here]
    cases info.fields.contains "alternative" with
    | true => exact lowerFirst_eq level children
    | false => exact ih

theorem orLacks_eq (t : Tree) (level : Nat) (field : String) :
    t.orLacks field (lowerField level field t.children) =
      t.required field >>= fun child => lower (bodyLevel level child) child := by
  rw [lowerField_eq, required, field?]
  cases t.children.find? fun child => child.info.fields.contains field <;> rfl

end Parts

theorem lower_eq (level : Nat) (t : Tree) : lower level t = lowerOver lower level t := by
  obtain ⟨info, children⟩ := t
  have body (field : String) := orLacks_eq (node info children) level field
  simp only [Tree.children] at body
  have kind : (node info children).kind = info.kind := rfl
  rw [lower, lowerOver, kind]
  simp only [lowerAll_eq, lowerElse_eq, body]
  congr 1
  split
  case h_1 same | h_2 same | h_5 same | h_6 same | h_9 same | h_10 same =>
    rw [same]
    rfl
  case h_3 same | h_4 same =>
    rw [same]
    cases (node info children).required "name" with
    | error fault => rfl
    | ok name => cases (node info children).required "body" <;> rfl
  case h_7 same =>
    rw [same]
    cases (node info children).required "consequence" <;> rfl
  case h_8 same =>
    rw [same]
    cases (node info children).required "body" <;> rfl
  case h_11 =>
    have form : formOf info.kind = .unsupported := by
      unfold formOf
      split <;> first | contradiction | rfl
    rw [form]
    rfl

/-- The statements that a node may become, each with what is known of the nodes below. -/
inductive Becomes (level : Nat) (t : Tree) : Statement → Prop
  | program {body : List Statement} :
    formOf t.kind = .program → t.parts.mapM (lower (level + 1)) = .ok body →
      Becomes level t (.program t.span body)
  | block {body : List Statement} :
    formOf t.kind = .block → t.parts.mapM (lower (level + 1)) = .ok body →
      Becomes level t (.block t.span body)
  | function {name child : Tree} {body : Statement} :
    formOf t.kind = .function → t.field? "name" = some name → t.field? "body" = some child →
    lower (bodyLevel level child) child = .ok body →
      Becomes level t (.function t.span name.span body)
  | declaration {ds : List Declarator} :
    formOf t.kind = .declaration → t.declarators = .ok ds →
      Becomes level t (.declaration t.span ds)
  | conditional {test : Span} {child : Tree} {consequent : Statement}
    {alternate : Option Statement} :
    formOf t.kind = .conditional → t.conditionSpan = .ok test →
    t.field? "consequence" = some child → lower (bodyLevel level child) child = .ok consequent →
    (t.elseStatement?.mapM fun s => lower (bodyLevel level s) s) = .ok alternate →
      Becomes level t (.conditional t.span test consequent alternate)
  | loop {test : Span} {child : Tree} {body : Statement} :
    formOf t.kind = .loop → t.conditionSpan = .ok test → t.field? "body" = some child →
    lower (bodyLevel level child) child = .ok body →
      Becomes level t (.loop t.span test body)
  | expression : formOf t.kind = .expression → Becomes level t (.expression t.span)
  | exit : formOf t.kind = .exit → Becomes level t (.exit t.span (t.parts.head?.map span))
  | unsupported : formOf t.kind = .unsupported → Becomes level t (.unsupported t.span t.kind)

section Becomes

variable {α β : Type} {level : Nat} {t : Tree} {s : Statement}

theorem bind_ok {first : Except Fault α} {next : α → Except Fault β} {b : β}
    (done : first >>= next = .ok b) : ∃ a, first = .ok a ∧ next a = .ok b := by
  cases first with
  | error fault => cases done
  | ok a => exact ⟨a, rfl, done⟩

theorem mapM_ok {f : α → Except Fault β} {items : List α} {values : List β}
    (done : items.mapM f = .ok values) : List.Forall₂ (fun item value => f item = .ok value)
      items values := by
  induction items generalizing values with
  | nil =>
    cases done
    exact .nil
  | cons item rest ih =>
    rw [List.mapM_cons] at done
    obtain ⟨value, first, done⟩ := bind_ok done
    obtain ⟨later, others, done⟩ := bind_ok done
    cases done
    exact .cons first (ih others)

theorem forall₂_mem {r : α → β → Prop} {items : List α} {values : List β}
    (related : List.Forall₂ r items values) {value : β} (listed : value ∈ values) :
    ∃ item ∈ items, r item value := by
  induction related with
  | nil => cases listed
  | cons first _ ih =>
    rcases List.mem_cons.mp listed with rfl | later
    · exact ⟨_, List.mem_cons_self, first⟩
    · obtain ⟨item, member, holds⟩ := ih later
      exact ⟨item, List.mem_cons_of_mem _ member, holds⟩

theorem lower_becomes (lowered : lower level t = .ok s) : Becomes level t s := by
  rw [lower_eq, lowerOver] at lowered
  split at lowered
  · cases lowered
  dsimp only at lowered
  cases form : formOf t.kind <;> rw [form] at lowered <;> dsimp only at lowered
  case program =>
    obtain ⟨body, list, done⟩ := bind_ok lowered
    cases done
    exact .program form list
  case block =>
    obtain ⟨body, list, done⟩ := bind_ok lowered
    cases done
    exact .block form list
  case function =>
    obtain ⟨name, named, lowered⟩ := bind_ok lowered
    obtain ⟨child, found, lowered⟩ := bind_ok lowered
    obtain ⟨body, below, done⟩ := bind_ok lowered
    cases done
    exact .function form (required_eq_ok named) (required_eq_ok found) below
  case declaration =>
    obtain ⟨ds, list, done⟩ := bind_ok lowered
    cases done
    exact .declaration form list
  case conditional =>
    obtain ⟨child, found, lowered⟩ := bind_ok lowered
    obtain ⟨alternate, other, lowered⟩ := bind_ok lowered
    obtain ⟨test, condition, lowered⟩ := bind_ok lowered
    obtain ⟨consequent, below, done⟩ := bind_ok lowered
    cases done
    exact .conditional form condition (required_eq_ok found) below other
  case loop =>
    obtain ⟨child, found, lowered⟩ := bind_ok lowered
    obtain ⟨test, condition, lowered⟩ := bind_ok lowered
    obtain ⟨body, below, done⟩ := bind_ok lowered
    cases done
    exact .loop form condition (required_eq_ok found) below
  case expression =>
    cases lowered
    exact .expression form
  case exit =>
    cases lowered
    exact .exit form
  case unsupported =>
    cases lowered
    exact .unsupported form

theorem span_of_lower (lowered : lower level t = .ok s) : s.span = t.span := by
  cases lower_becomes lowered <;> rfl

end Becomes

end Flowchart.Tree
