import Flowchart.Chart.Format
import Flowchart.Proofs.Chart.Built
import Flowchart.Proofs.Text.Taking

/-! The DOT text of a chart can be read back. Labels hold no double quote, and no line break once
they are escaped, so each statement keeps to its line and undoing the escapes gives the whole chart. -/
namespace Flowchart

open Text

/-- What may stand between double quotes. A backslash takes the next character with it. -/
inductive Quotable : List Char → Prop
  | nil : Quotable []
  | plain {c : Char} {cs : List Char} : c ≠ '"' → c ≠ '\\' → Quotable cs → Quotable (c :: cs)
  | escaped {c : Char} {cs : List Char} : Quotable cs → Quotable ('\\' :: c :: cs)

/-- A text with one line break, which ends it. -/
def OneLine (text : String) : Prop := ∃ line : List Char, text.toList = line ++ ['\n'] ∧ '\n' ∉ line

def undoEscapes : List Char → List Char
  | '\\' :: '\\' :: rest => '\\' :: undoEscapes rest
  | '\\' :: 'n' :: rest => '\n' :: undoEscapes rest
  | c :: rest => c :: undoEscapes rest
  | [] => []

/-- Takes what stands before the closing quote. -/
def takeQuoted? : List Char → Option (List Char × List Char)
  | '"' :: rest => some ([], rest)
  | '\\' :: c :: rest => (takeQuoted? rest).map fun (inside, rest) => ('\\' :: c :: inside, rest)
  | c :: rest => (takeQuoted? rest).map fun (inside, rest) => (c :: inside, rest)
  | [] => none

/-- What follows the label of a node. -/
def NodeKind.dotTail (kind : NodeKind) : String :=
  ", shape=" ++ kind.dotStyle.shape ++ ", fillcolor=\"" ++ kind.dotStyle.color ++ "\", style=\"" ++
    kind.dotStyle.style ++ "\"];\n"

def dotAnswer : Option Branch → String
  | some branch => " [label=\"" ++ branch.word ++ "\"];\n"
  | none => ";\n"

def takeKind? (text : List Char) : Option (NodeKind × List Char) :=
  [.function, .declaration, .condition, .loop, .expression, .exit].findSome? fun kind =>
    (takeWord? kind.dotTail text).map fun text => (kind, text)

def takeAnswer? (text : List Char) : Option (Option Branch × List Char) :=
  [none, some .whenTrue, some .whenFalse].findSome? fun branch =>
    (takeWord? (dotAnswer branch) text).map fun text => (branch, text)

def takeNodeStatement? (text : List Char) : Option (Node × List Char) := do
  let text ← takeWord? "    " text
  let (_, text) ← takeName? text
  let text ← takeWord? " [label=\"" text
  let (label, text) ← takeQuoted? text
  let (kind, text) ← takeKind? text
  return (⟨String.ofList (undoEscapes label), kind⟩, text)

def takeEdgeStatement? (text : List Char) : Option (Edge × List Char) := do
  let text ← takeWord? "    " text
  let (source, text) ← takeName? text
  let text ← takeWord? " -> " text
  let (target, text) ← takeName? text
  let (branch, text) ← takeAnswer? text
  return (⟨source, target, branch⟩, text)

def readDot? (text : String) : Option Graph := do
  let text ← takeWord? dotHeader text.toList
  let (nodes, text) := takeMany takeNodeStatement? text
  let (edges, text) := takeMany takeEdgeStatement? text
  let text ← takeWord? "\x7d\n" text
  if text.isEmpty then some ⟨nodes.toArray, edges.toArray⟩ else none

section Escapes

theorem dotEscapeChar_cases (c : Char) :
    (c = '\\' ∧ dotEscapeChar c = ['\\', '\\']) ∨ (c = '\n' ∧ dotEscapeChar c = ['\\', 'n']) ∨
      (c ≠ '\\' ∧ c ≠ '\n' ∧ dotEscapeChar c = [c]) := by
  by_cases backslash : c = '\\'
  · subst backslash
    exact .inl ⟨rfl, rfl⟩
  · by_cases newline : c = '\n'
    · subst newline
      exact .inr (.inl ⟨rfl, rfl⟩)
    · refine .inr (.inr ⟨backslash, newline, ?_⟩)
      simp [dotEscapeChar, backslash, newline]

theorem quotable_escaped {label : List Char} (unquoted : '"' ∉ label) :
    Quotable (label.flatMap dotEscapeChar) := by
  induction label with
  | nil => exact .nil
  | cons c label ih =>
    have later := ih (List.not_mem_of_not_mem_cons unquoted)
    rw [List.flatMap_cons]
    rcases dotEscapeChar_cases c with ⟨_, written⟩ | ⟨_, written⟩ | ⟨backslash, _, written⟩
    · rw [written]
      exact .escaped later
    · rw [written]
      exact .escaped later
    · rw [written]
      exact .plain (List.ne_of_not_mem_cons unquoted).symm backslash later

theorem undoEscapes_escaped (label : List Char) :
    undoEscapes (label.flatMap dotEscapeChar) = label := by
  induction label with
  | nil => rfl
  | cons c label ih =>
    rw [List.flatMap_cons]
    rcases dotEscapeChar_cases c with ⟨rfl, written⟩ | ⟨rfl, written⟩ | ⟨backslash, _, written⟩
    · simp [written, undoEscapes, ih]
    · simp [written, undoEscapes, ih]
    · simp [written, undoEscapes, ih, backslash]

theorem newline_not_mem_escaped (label : List Char) : '\n' ∉ label.flatMap dotEscapeChar := by
  intro member
  obtain ⟨c, _, inside⟩ := List.mem_flatMap.mp member
  rcases dotEscapeChar_cases c with ⟨_, written⟩ | ⟨_, written⟩ | ⟨_, newline, written⟩
  · simp [written] at inside
  · simp [written] at inside
  · rw [written, List.mem_singleton] at inside
    exact newline inside.symm

/-- A quotation ends at the quote behind it, whatever follows. -/
theorem takeQuoted?_append {inside : List Char} (quotable : Quotable inside) (rest : List Char) :
    takeQuoted? (inside ++ '"' :: rest) = some (inside, rest) := by
  induction quotable with
  | nil => rfl
  | plain quote backslash _ ih => simp [takeQuoted?, backslash, ih]
  | escaped _ ih => simp [takeQuoted?, ih]

end Escapes

section Lines

theorem OneLine.behind {front text : String} (clean : '\n' ∉ front.toList) (line : OneLine text) :
    OneLine (front ++ text) := by
  obtain ⟨inside, written, whole⟩ := line
  refine ⟨front.toList ++ inside, ?_, ?_⟩
  · rw [String.toList_append, written, List.append_assoc]
  · rw [List.mem_append]
    rintro (before | behind)
    · exact clean before
    · exact whole behind

theorem OneLine.count {text : String} (line : OneLine text) : text.toList.count '\n' = 1 := by
  obtain ⟨inside, written, whole⟩ := line
  rw [written, List.count_append, List.count_eq_zero.mpr whole]
  rfl

theorem oneLine_dotTail (kind : NodeKind) : OneLine kind.dotTail := by
  refine ⟨kind.dotTail.toList.dropLast, ?_, ?_⟩
  · cases kind <;> simp [NodeKind.dotTail, NodeKind.dotStyle]
  · cases kind <;> simp [NodeKind.dotTail, NodeKind.dotStyle]

theorem oneLine_dotAnswer (branch : Option Branch) : OneLine (dotAnswer branch) := by
  refine ⟨(dotAnswer branch).toList.dropLast, ?_, ?_⟩
  · rcases branch with _ | _ | _ <;> simp [dotAnswer, Branch.word]
  · rcases branch with _ | _ | _ <;> simp [dotAnswer, Branch.word]

theorem newline_not_mem_nodeId (n : Nat) : '\n' ∉ (nodeId n).toList :=
  not_mem_nodeId (by decide) (by decide) n

theorem nodeStatement_eq (node : Node) (n : Nat) :
    node.dotLine n = "    " ++ nodeId n ++ " [label=\"" ++ dotEscape node.label ++ "\"" ++
      node.kind.dotTail := by
  have closing : "\", shape=" = "\"" ++ ", shape=" := rfl
  -- The equations of definitions with a `let` are slow to derive.
  delta Node.dotLine NodeKind.dotTail
  simp only [closing, String.append_assoc]

theorem edgeStatement_eq (edge : Edge) :
    edge.dotLine = "    " ++ nodeId edge.source ++ " -> " ++ nodeId edge.target ++
      dotAnswer edge.branch := by
  rw [← String.toList_inj]
  obtain ⟨source, target, _ | branch⟩ := edge <;> simp [Edge.dotLine, dotAnswer]

theorem oneLine_nodeStatement (node : Node) (n : Nat) : OneLine (node.dotLine n) := by
  have label := newline_not_mem_escaped node.label.toList
  have name := newline_not_mem_nodeId n
  rw [nodeStatement_eq]
  apply OneLine.behind _ (oneLine_dotTail node.kind)
  simp [dotEscape, name, label]

theorem oneLine_edgeStatement (edge : Edge) : OneLine edge.dotLine := by
  have source := newline_not_mem_nodeId edge.source
  have target := newline_not_mem_nodeId edge.target
  rw [edgeStatement_eq]
  apply OneLine.behind _ (oneLine_dotAnswer edge.branch)
  simp [source, target]

end Lines

section Statements

theorem takeKind?_append (kind : NodeKind) (rest : List Char) :
    takeKind? (kind.dotTail.toList ++ rest) = some (kind, rest) := by
  cases kind <;> rfl

theorem takeAnswer?_append (branch : Option Branch) (rest : List Char) :
    takeAnswer? ((dotAnswer branch).toList ++ rest) = some (branch, rest) := by
  rcases branch with _ | _ | _ <;> rfl

theorem dotAnswer_head (branch : Option Branch) (rest : List Char) :
    ∀ c ∈ ((dotAnswer branch).toList ++ rest).head?, c.isDigit = false := by
  rcases branch with _ | _ | _ <;> simp [dotAnswer]

theorem takeNodeStatement?_append {node : Node} (unquoted : '"' ∉ node.label.toList) (n : Nat)
    (rest : List Char) :
    takeNodeStatement? ((node.dotLine n).toList ++ rest) = some (node, rest) := by
  have line : (node.dotLine n).toList ++ rest = "    ".toList ++ ((nodeId n).toList ++
      (" [label=\"".toList ++ (node.label.toList.flatMap dotEscapeChar ++
        '"' :: (node.kind.dotTail.toList ++ rest)))) := by
    simp [nodeStatement_eq, dotEscape]
  rw [line, takeNodeStatement?, takeWord?_append]
  simp only [Option.bind_eq_bind, Option.bind_some]
  rw [takeName?_append n (by simp)]
  simp only [Option.bind_some, takeWord?_append, takeQuoted?_append (quotable_escaped unquoted),
    takeKind?_append, undoEscapes_escaped, String.ofList_toList]
  rfl

theorem edgeStatement_append (edge : Edge) (rest : List Char) :
    edge.dotLine.toList ++ rest = "    ".toList ++ ((nodeId edge.source).toList ++
      (" -> ".toList ++ ((nodeId edge.target).toList ++
        ((dotAnswer edge.branch).toList ++ rest)))) := by
  simp [edgeStatement_eq]

/-- Where an edge has its arrow, a node has its label. -/
theorem takeNodeStatement?_edge (edge : Edge) (rest : List Char) :
    takeNodeStatement? (edge.dotLine.toList ++ rest) = none := by
  rw [edgeStatement_append, takeNodeStatement?, takeWord?_append]
  simp only [Option.bind_eq_bind, Option.bind_some]
  rw [takeName?_append _ (by simp)]
  rfl

theorem takeEdgeStatement?_append (edge : Edge) (rest : List Char) :
    takeEdgeStatement? (edge.dotLine.toList ++ rest) = some (edge, rest) := by
  rw [edgeStatement_append, takeEdgeStatement?, takeWord?_append]
  simp only [Option.bind_eq_bind, Option.bind_some]
  rw [takeName?_append _ (by simp)]
  simp only [Option.bind_some, takeWord?_append]
  rw [takeName?_append _ (dotAnswer_head _ _)]
  simp only [Option.bind_some, takeAnswer?_append]
  rfl

end Statements

namespace Graph

variable {g h : Graph}

def nodeStatements (g : Graph) : List Char :=
  g.nodes.toList.zipIdx.flatMap fun (node, n) => (node.dotLine n).toList

def edgeStatements (g : Graph) : List Char := g.edges.toList.flatMap fun edge => edge.dotLine.toList

theorem dot_eq (g : Graph) : (g.render .dot).toList =
    dotHeader.toList ++ (g.nodeStatements ++ (g.edgeStatements ++ "\x7d\n".toList)) := by
  simp only [render, dot, nodeStatements, edgeStatements, String.toList_append,
    String.toList_join, List.flatMap_map, List.append_assoc]

/-- The statements of a chart, with the line break behind each. -/
def dotStatements (g : Graph) : List String :=
  (g.nodes.toList.zipIdx.map fun (node, n) => node.dotLine n) ++ g.edges.toList.map Edge.dotLine

theorem dot_statements (g : Graph) :
    g.render .dot = dotHeader ++ String.join g.dotStatements ++ "\x7d\n" := by
  rw [← String.toList_inj]
  simp [render, dot, dotStatements, String.toList_join]

theorem length_dotStatements (g : Graph) :
    g.dotStatements.length = g.nodes.size + g.edges.size := by
  simp [dotStatements]

theorem oneLine_dotStatements (g : Graph) : ∀ line ∈ g.dotStatements, OneLine line := by
  intro line member
  rcases List.mem_append.mp member with placed | joined
  · obtain ⟨⟨node, n⟩, _, rfl⟩ := List.mem_map.mp placed
    exact oneLine_nodeStatement node n
  · obtain ⟨edge, _, rfl⟩ := List.mem_map.mp joined
    exact oneLine_edgeStatement edge

theorem count_lines {lines : List String} (single : ∀ line ∈ lines, OneLine line) :
    (String.join lines).toList.count '\n' = lines.length := by
  rw [String.toList_join]
  induction lines with
  | nil => rfl
  | cons line lines ih =>
    have first := (single line List.mem_cons_self).count
    have later := ih fun l member => single l (List.mem_cons_of_mem _ member)
    rw [List.flatMap_cons, List.count_append, first, later, List.length_cons, Nat.add_comm]

theorem count_dot (g : Graph) :
    (g.render .dot).toList.count '\n' = g.nodes.size + g.edges.size + 6 := by
  have header : dotHeader.toList.count '\n' = 5 := by decide +kernel
  have footer : "\x7d\n".toList.count '\n' = 1 := by decide +kernel
  have lines := count_lines (oneLine_dotStatements g)
  rw [length_dotStatements] at lines
  rw [dot_statements, String.toList_append, String.toList_append, List.count_append,
    List.count_append, header, footer, lines]
  omega

theorem takeNodeStatement?_edgeStatements (g : Graph) :
    takeNodeStatement? (g.edgeStatements ++ "\x7d\n".toList) = none := by
  unfold edgeStatements
  cases g.edges.toList with
  | nil => rfl
  | cons edge rest =>
    rw [List.flatMap_cons, List.append_assoc]
    exact takeNodeStatement?_edge edge _

theorem takeMany_nodeStatements (built : g.Built) :
    takeMany takeNodeStatement? (g.nodeStatements ++ (g.edgeStatements ++ "\x7d\n".toList)) =
      (g.nodes.toList, g.edgeStatements ++ "\x7d\n".toList) := by
  have nodes := List.zipIdx_map_fst 0 g.nodes.toList
  rw [← nodes]
  apply takeMany_flatMap (takeNodeStatement?_edgeStatements g)
  · rintro ⟨node, n⟩ _
    obtain ⟨line, written, _⟩ := oneLine_nodeStatement node n
    simp [written]
  · rintro ⟨node, n⟩ member rest
    have stored : node ∈ g.nodes := Array.mem_toList_iff.mp (List.fst_mem_of_mem_zipIdx member)
    exact takeNodeStatement?_append (built.unquoted node stored) n rest

theorem takeMany_edgeStatements (g : Graph) :
    takeMany takeEdgeStatement? (g.edgeStatements ++ "\x7d\n".toList) =
      (g.edges.toList, "\x7d\n".toList) := by
  have taken : takeMany takeEdgeStatement? (g.edgeStatements ++ "\x7d\n".toList) =
      (g.edges.toList.map id, "\x7d\n".toList) := by
    apply takeMany_flatMap
    · rfl
    · intro edge _
      obtain ⟨line, written, _⟩ := oneLine_edgeStatement edge
      simp [written]
    · exact fun edge _ rest => takeEdgeStatement?_append edge rest
  rwa [List.map_id] at taken

theorem readDot?_dot (built : g.Built) : readDot? (g.render .dot) = some g := by
  have footer : takeWord? "\x7d\n" "\x7d\n".toList = some [] := takeWord?_append "\x7d\n" []
  simp only [readDot?, dot_eq, takeWord?_append, Option.bind_eq_bind, Option.bind_some,
    takeMany_nodeStatements built, takeMany_edgeStatements, footer]
  rfl

/-- The DOT text of a chart keeps each statement on its line and each label in its quotes, and gives
back the whole chart; so two charts never have the same text. -/
theorem dot_determines (first : g.Built) (second : h.Built) :
    (g.render .dot).toList.count '\n' = g.nodes.size + g.edges.size + 6 ∧
      g.render .dot = dotHeader ++ String.join g.dotStatements ++ "\x7d\n" ∧
      g.dotStatements.length = g.nodes.size + g.edges.size ∧
      (∀ line ∈ g.dotStatements, OneLine line) ∧
      (∀ node ∈ g.nodes, Quotable (dotEscape node.label).toList ∧
        undoEscapes (dotEscape node.label).toList = node.label.toList) ∧
      (∀ branch : Branch, Quotable branch.word.toList) ∧
      readDot? (g.render .dot) = some g ∧ (g.render .dot = h.render .dot → g = h) := by
  refine ⟨count_dot g, dot_statements g, length_dotStatements g, oneLine_dotStatements g, ?_, ?_,
    readDot?_dot first, ?_⟩
  · intro node member
    rw [dotEscape, String.toList_ofList]
    exact ⟨quotable_escaped (first.unquoted node member), undoEscapes_escaped node.label.toList⟩
  · intro branch
    have plain : branch.word.toList.flatMap dotEscapeChar = branch.word.toList := by
      cases branch <;> rfl
    have unquoted : '"' ∉ branch.word.toList := by cases branch <;> simp [Branch.word]
    exact plain ▸ quotable_escaped unquoted
  · intro same
    have read : some g = some h := by
      rw [← readDot?_dot first, ← readDot?_dot second, same]
    exact Option.some.inj read

/-- A chart with a label that ends in a backslash, and one with a backslash and an `n` in front of a
line break. -/
def slashes (kind : NodeKind) : Graph :=
  ((empty.addNode "a\\" kind).addNode "\\n\n\"" .declaration).addEdge 0 1 (some .whenFalse)

theorem slashes_determined :
    ((slashes .function).Built ∧ (slashes .exit).Built) ∧
      (slashes .function).nodes.toList.map (fun node => dotEscape node.label) =
        ["a\\\\", "\\\\n\\n'"] ∧
      ((slashes .function).render .dot).toList.count '\n' = 9 ∧
      readDot? ((slashes .function).render .dot) = some (slashes .function) ∧
      (slashes .function).render .dot ≠ (slashes .exit).render .dot := by
  have built (kind : NodeKind) : (slashes kind).Built :=
    .edge (.node (.node .empty _ _) _ _) _ (by simp [addNode, empty]) (by simp [addNode, empty])
  obtain ⟨lines, _, _, _, _, _, read, determined⟩ := dot_determines (built .function) (built .exit)
  have written : (slashes .function).nodes.toList.map (fun node => dotEscape node.label) =
      ["a\\\\", "\\\\n\\n'"] := by decide +kernel
  have different : slashes .function ≠ slashes .exit := by decide +kernel
  have counted : (slashes .function).nodes.size + (slashes .function).edges.size + 6 = 9 := by
    decide +kernel
  exact ⟨⟨built _, built _⟩, written, lines.trans counted, read, fun same => different (determined same)⟩

end Graph

end Flowchart
