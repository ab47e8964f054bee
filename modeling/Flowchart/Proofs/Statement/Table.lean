import Flowchart.Chart.Graph
import Flowchart.Statement

/-! The table of statements: which of them have a node, with which label, and which edges belong to
it. Nodes are numbered in the order of the statements, so the whole table is read off a tree and
the number of its first node, without a graph. -/
namespace Flowchart

/-- The piece of the script in a range, empty where the range does not fit the script. -/
def Span.text (source : String) (span : Span) : String := (span.slice? source).getD ""

def Declarator.label (source : String) (d : Declarator) : String :=
  d.name.text source ++ " = " ++ match d.value with
    | some span => span.text source
    | none => "undefined"

/-- The edge into a node from the one before it, if there is one. -/
def Edge.into (incoming : Option Nat) (n : Nat) : List Edge :=
  incoming.toList.map fun before => ⟨before, n, none⟩

/-- The edge from a condition to the last node of one of its branches. -/
def Edge.toBranch (n : Nat) (branch : Branch) (last : Option Nat) : List Edge :=
  last.toList.map fun m => ⟨n, m, some branch⟩

namespace Statement

def nodeKind? : Statement → Option NodeKind
  | function .. => some .function
  | declaration .. => some .declaration
  | conditional .. => some .condition
  | loop .. => some .loop
  | expression _ => some .expression
  | exit .. => some .exit
  | program .. | block .. | unsupported .. => none

def label (source : String) : Statement → String
  | function _ name _ => "Function: " ++ name.text source
  | declaration _ ds => ", ".intercalate (ds.map (Declarator.label source))
  | conditional _ test _ _ => "if (" ++ test.text source ++ ")"
  | loop _ test _ => "while (" ++ test.text source ++ ")"
  | expression span => span.text source
  | exit _ (some argument) => "return " ++ argument.text source
  | exit _ none => "return "
  | program .. | block .. | unsupported .. => ""

def node? (source : String) (s : Statement) : Option Node :=
  s.nodeKind?.map fun kind => ⟨escapeLabel (s.label source), kind⟩

mutual

/-- The statements of a tree, each before its parts. -/
def preorder : Statement → List Statement
  | program span body => program span body :: preorderAll body
  | block span body => block span body :: preorderAll body
  | function span name body => function span name body :: preorder body
  | conditional span test consequent none =>
    conditional span test consequent none :: preorder consequent
  | conditional span test consequent (some alternate) =>
    conditional span test consequent (some alternate) ::
      (preorder consequent ++ preorder alternate)
  | loop span test body => loop span test body :: preorder body
  | declaration span ds => [declaration span ds]
  | expression span => [expression span]
  | exit span argument => [exit span argument]
  | unsupported span kind => [unsupported span kind]

def preorderAll : List Statement → List Statement
  | [] => []
  | s :: rest => preorder s ++ preorderAll rest

end

def nodes (source : String) (s : Statement) : List Node := s.preorder.filterMap (node? source)

def kinds (s : Statement) : List NodeKind := s.preorder.filterMap nodeKind?

def kindsAll (ss : List Statement) : List NodeKind := (preorderAll ss).filterMap nodeKind?

def size (s : Statement) : Nat := s.kinds.length

def sizeAll (ss : List Statement) : Nat := (kindsAll ss).length

mutual

/-- The node that flows out of a statement whose first node has the number `n`. -/
def last (n : Nat) (incoming : Option Nat) : Statement → Option Nat
  | program _ body => lastAll n none body
  | block _ body => lastAll n incoming body
  | unsupported .. => none
  | function .. | declaration .. | conditional .. | loop .. | expression _ | exit .. => some n

def lastAll (n : Nat) (incoming : Option Nat) : List Statement → Option Nat
  | [] => incoming
  | s :: rest => lastAll (n + s.size) (last n incoming s) rest

end

mutual

/-- The edges of a tree whose first node has the number `n`, in order. -/
def arrows (n : Nat) (incoming : Option Nat) : Statement → List Edge
  | program _ body => arrowsAll n none body
  | block _ body => arrowsAll n incoming body
  | function _ _ body => Edge.into incoming n ++ arrows (n + 1) (some n) body
  | conditional _ _ consequent none =>
    Edge.into incoming n ++ arrows (n + 1) (some n) consequent ++
      Edge.toBranch n .whenTrue (last (n + 1) (some n) consequent)
  | conditional _ _ consequent (some alternate) =>
    Edge.into incoming n ++ arrows (n + 1) (some n) consequent ++
      Edge.toBranch n .whenTrue (last (n + 1) (some n) consequent) ++
      arrows (n + 1 + consequent.size) (some n) alternate ++
      Edge.toBranch n .whenFalse (last (n + 1 + consequent.size) (some n) alternate)
  | loop _ _ body =>
    Edge.into incoming n ++ arrows (n + 1) (some n) body ++
      Edge.into (last (n + 1) (some n) body) n
  | declaration .. | expression _ | exit .. => Edge.into incoming n
  | unsupported .. => []

def arrowsAll (n : Nat) (incoming : Option Nat) : List Statement → List Edge
  | [] => []
  | s :: rest => arrows n incoming s ++ arrowsAll (n + s.size) (last n incoming s) rest

end

mutual

theorem reached_snd (level : Nat) : ∀ s : Statement, (s.reached level).map Prod.snd = s.preorder
  | program _ body | block _ body => by
    simp only [preorder, reached, List.map_cons, reachedAll_snd _ body]
  | function _ _ body | loop _ _ body => by
    simp only [preorder, reached, List.map_cons, reached_snd _ body]
  | conditional _ _ consequent none => by
    simp only [preorder, reached, List.map_cons, reached_snd _ consequent]
  | conditional _ _ consequent (some alternate) => by
    simp only [preorder, reached, List.map_cons, List.map_append, reached_snd _ consequent,
      reached_snd _ alternate]
  | declaration .. | expression _ | exit .. | unsupported .. => rfl

theorem reachedAll_snd (level : Nat) :
    ∀ ss : List Statement, (reachedAll level ss).map Prod.snd = preorderAll ss
  | [] => rfl
  | s :: rest => by
    simp only [preorderAll, reachedAll, List.map_append, reached_snd _ s, reachedAll_snd _ rest]

end

section Kinds

variable {span name test : Span} {body consequent alternate s : Statement}
  {ds : List Declarator} {argument : Option Span} {ss : List Statement}

@[simp] theorem kinds_function : (function span name body).kinds = .function :: body.kinds := rfl

@[simp] theorem kinds_declaration : (declaration span ds).kinds = [.declaration] := rfl

@[simp] theorem kinds_conditional_none :
    (conditional span test consequent none).kinds = .condition :: consequent.kinds := rfl

@[simp] theorem kinds_conditional_some :
    (conditional span test consequent (some alternate)).kinds =
      .condition :: (consequent.kinds ++ alternate.kinds) := by
  simp only [kinds, preorder, nodeKind?, List.filterMap_cons, List.filterMap_append]

@[simp] theorem kinds_loop : (loop span test body).kinds = .loop :: body.kinds := rfl

@[simp] theorem kinds_expression : (expression span).kinds = [.expression] := rfl

@[simp] theorem kinds_exit : (exit span argument).kinds = [.exit] := rfl

@[simp] theorem kindsAll_cons : kindsAll (s :: ss) = s.kinds ++ kindsAll ss := by
  simp only [kindsAll, kinds, preorderAll, List.filterMap_append]

end Kinds

theorem nodes_first (source : String) (s : Statement) (ss : List Statement) :
    (s :: ss).filterMap (node? source) = (s.node? source).toList ++ ss.filterMap (node? source) := by
  rw [List.filterMap_cons]
  cases s.node? source <;> rfl

theorem preorder_first (s : Statement) : ∃ rest, s.preorder = s :: rest := by
  cases s with
  | conditional _ _ _ alternate => cases alternate <;> exact ⟨_, rfl⟩
  | _ => exact ⟨_, rfl⟩

theorem nodes_head {source : String} {s : Statement} {node : Node}
    (named : s.node? source = some node) : ∃ rest, s.nodes source = node :: rest := by
  obtain ⟨rest, order⟩ := s.preorder_first
  exact ⟨_, by rw [nodes, order, nodes_first, named]; rfl⟩

theorem nodes_kind (source : String) (s : Statement) : (s.nodes source).map Node.kind = s.kinds := by
  rw [nodes, kinds, List.map_filterMap]
  congr 1
  funext t
  simp only [node?, Option.map_map]
  exact Option.map_id'

theorem nodes_length (source : String) (s : Statement) : (s.nodes source).length = s.size := by
  rw [size, ← nodes_kind source, List.length_map]

section Size

variable {span name test : Span} {body consequent alternate s : Statement} {ss : List Statement}

@[simp] theorem size_program : (program span ss).size = sizeAll ss := rfl

@[simp] theorem size_block : (block span ss).size = sizeAll ss := rfl

@[simp] theorem size_function : (function span name body).size = body.size + 1 := rfl

@[simp] theorem size_conditional_none :
    (conditional span test consequent none).size = consequent.size + 1 := rfl

@[simp] theorem size_conditional_some :
    (conditional span test consequent (some alternate)).size =
      consequent.size + alternate.size + 1 := by
  simp only [size, kinds_conditional_some, List.length_cons, List.length_append]

@[simp] theorem size_loop : (loop span test body).size = body.size + 1 := rfl

@[simp] theorem sizeAll_nil : sizeAll [] = 0 := rfl

@[simp] theorem sizeAll_cons : sizeAll (s :: ss) = s.size + sizeAll ss := by
  simp only [sizeAll, size, kindsAll_cons, List.length_append]

end Size

end Statement

end Flowchart
