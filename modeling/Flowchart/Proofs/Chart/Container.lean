import Flowchart.Proofs.Chart.Additions
import Flowchart.Proofs.Chart.Mermaid
import Flowchart.Proofs.Text.Page

/-! Charts in the element in which a page shows them. The element holds the Mermaid text as it is, so
the only markup inside is that of the labels, and only they can make a page read another text. -/
namespace Flowchart

open Text

/-- The text that a page reads in an element that holds text and nothing else: what it reads behind the
opening tag up to the next markup, which has to be the closing tag at the end. -/
def pageText? (refs : References) (block : String) : Option String := do
  let inside ← takeWord? "<div class=\"mermaid\">" block.toList
  if (readPage refs 0 inside).2 = "</div>".toList then
    some (String.ofList (readPage refs 0 inside).1)
  else none

theorem sign_not_mem_nodeId {c : Char} (sign : c ∈ signs) (n : Nat) : c ∉ (nodeId n).toList := by
  have other : ∀ c ∈ signs, c ∉ "node".toList ∧ c.isDigit = false := by simp [signs]
  exact not_mem_nodeId (other c sign).1 (other c sign).2 n

theorem sign_not_mem_edgeLine {c : Char} (sign : c ∈ signs) (edge : Edge) :
    c ∉ edge.mermaidLine.toList ++ ['\n'] := by
  have other : ∀ branch, ∀ c ∈ signs, c ∉ (arrow branch).toList ++ ['\n'] := by
    rintro (_ | _ | _) <;> simp [signs, arrow, Branch.word]
  have line := edgeLine_eq edge []
  have arrowed := other edge.branch c sign
  rw [List.append_nil] at line
  rw [line]
  simp only [List.mem_append, List.mem_singleton, not_or] at arrowed
  simp [sign_not_mem_nodeId sign, arrowed]

def nodeLine (entry : Node × Nat) : List Char := (entry.1.mermaidLine entry.2).toList ++ ['\n']

theorem nodeLine_eq (node : Node) (n : Nat) : nodeLine (node, n) =
    (nodeId n).toList ++ "[\"".toList ++ (node.label.toList ++ "\"]\n".toList) := by
  simp [nodeLine, Node.mermaidLine]

/-- Markup in the line of a node is markup in its label. -/
theorem markupBehind_nodeLine (node : Node) (n : Nat) (front : List Char) :
    MarkupBehind (nodeLine (node, n)) front ↔
      ∃ inner, MarkupBehind node.label.toList inner ∧
        front = (nodeId n).toList ++ "[\"".toList ++ inner := by
  have id : '<' ∉ (nodeId n).toList := sign_not_mem_nodeId (by decide) n
  have name : '<' ∉ (nodeId n).toList ++ "[\"".toList := by simp [id]
  have close : '<' ∉ "\"]\n".toList := by simp
  have seam : Apart node.label.toList "\"]\n".toList := apart_of_head (by simp [beginsMarkup])
  rw [nodeLine_eq, markupBehind_append (apart_of_not_mem name)]
  simp only [markupBehind_append seam, not_markupBehind_of_not_mem name,
    not_markupBehind_of_not_mem close, false_and, exists_false, or_false, false_or]

/-- A text is the element of a chart: its two tags with the chart between them, and no other markup. -/
structure Contains (block chart : String) : Prop where
  whole : block.toList = "<div class=\"mermaid\">".toList ++ (chart.toList ++ "</div>".toList)
  markup : ∀ front, MarkupBehind block.toList front →
    front = [] ∨ front ++ "</div>".toList = block.toList

def storedChar (c : Char) : Char := if c = '"' then '\'' else c

theorem isMarkup_stored (text : List Char) : isMarkup (text.map storedChar) = isMarkup text := by
  match text with
  | [] => rfl
  | [c] => rw [List.map_singleton, isMarkup_single, isMarkup_single]
  | c :: d :: text =>
    have first : storedChar c = '<' ↔ c = '<' := by
      unfold storedChar
      split <;> simp_all
    have second : beginsMarkup (storedChar d) = beginsMarkup d := by
      unfold storedChar
      split
      · rename_i quote
        subst quote
        rfl
      · rfl
    by_cases same : c = '<'
    · subst same
      exact second
    · rw [List.map_cons, isMarkup_eq_head (mt first.mp same), isMarkup_eq_head same]

/-- Storing a label neither adds nor takes away markup. -/
theorem markupBehind_escapeLabel (text : String) :
    (∃ front, MarkupBehind (escapeLabel text).toList front) ↔ ∃ front, MarkupBehind text.toList front := by
  have stored : (escapeLabel text).toList = text.toList.map storedChar := by
    rw [escapeLabel_eq, String.toList_ofList]
    rfl
  rw [stored]
  constructor
  · rintro ⟨_, _, split, markup⟩
    obtain ⟨front, rest, same, rfl, rfl⟩ := List.map_eq_append_iff.mp split
    exact ⟨front, rest, same, (isMarkup_stored rest).symm.trans markup⟩
  · rintro ⟨front, rest, same, markup⟩
    refine ⟨front.map storedChar, rest.map storedChar, ?_, (isMarkup_stored rest).trans markup⟩
    rw [same, List.map_append]

namespace Graph

variable {g : Graph} {front : List Char}

/-- What stands in front of a label in the text of a chart. -/
def labelFront (g : Graph) (n : Nat) : List Char :=
  "flowchart LR\n".toList ++ ((g.nodes.toList.zipIdx.take n).flatMap nodeLine ++
    ((nodeId n).toList ++ "[\"".toList))

theorem labelFront_append (n : Nat) (inner : List Char) : g.labelFront n ++ inner =
    "flowchart LR\n".toList ++ ((g.nodes.toList.zipIdx.take n).flatMap nodeLine ++
      ((nodeId n).toList ++ "[\"".toList ++ inner)) := by
  have behind (a b c : List Char) : a ++ (b ++ c) ++ inner = a ++ (b ++ (c ++ inner)) := by
    simp only [List.append_assoc]
  exact behind _ _ _

theorem html_eq (g : Graph) : (g.render .html).toList =
    "<div class=\"mermaid\">".toList ++ (g.mermaid.toList ++ "</div>".toList) := by
  change ("<div class=\"mermaid\">" ++ g.mermaid ++ "</div>").toList = _
  rw [String.toList_append, String.toList_append, List.append_assoc]

theorem nodes_split {n : Nat} {node : Node} (stored : g.nodes[n]? = some node) :
    g.nodes.toList.zipIdx =
      g.nodes.toList.zipIdx.take n ++ (node, n) :: g.nodes.toList.zipIdx.drop (n + 1) := by
  have entry : g.nodes.toList.zipIdx[n]? = some (node, n) := by simp [stored]
  obtain ⟨inside, same⟩ := List.getElem?_eq_some_iff.mp entry
  rw [← same, List.cons_getElem_drop_succ, List.take_append_drop]

theorem nodeText_eq (g : Graph) : g.nodeText = g.nodes.toList.zipIdx.flatMap nodeLine := rfl

theorem markupBehind_nodeText : MarkupBehind g.nodeText front ↔
    ∃ n node inner, g.nodes[n]? = some node ∧ MarkupBehind node.label.toList inner ∧
      front = (g.nodes.toList.zipIdx.take n).flatMap nodeLine ++
        ((nodeId n).toList ++ "[\"".toList ++ inner) := by
  rw [nodeText_eq, markupBehind_flatMap (by simp [nodeLine])]
  constructor
  · rintro ⟨before, ⟨node, n⟩, after, tail, split, behind, rfl⟩
    obtain ⟨inner, markup, rfl⟩ := (markupBehind_nodeLine node n tail).mp behind
    have entry : g.nodes.toList.zipIdx[before.length]? = some (node, n) := by
      rw [split, List.getElem?_append_right (Nat.le_refl _), Nat.sub_self, List.getElem?_cons_zero]
    obtain ⟨stored, rfl⟩ : g.nodes.toList[before.length]? = some node ∧ before.length = n := by
      simpa using entry
    refine ⟨before.length, node, inner, by simpa using stored, markup, ?_⟩
    rw [split, List.take_left']
    rfl
  · rintro ⟨n, node, inner, stored, markup, rfl⟩
    have behind := (markupBehind_nodeLine node n _).mpr ⟨inner, markup, rfl⟩
    exact ⟨_, (node, n), _, _, nodes_split stored, behind, rfl⟩

theorem markup_not_mem_edgeText (g : Graph) : '<' ∉ g.edgeText := by
  intro member
  obtain ⟨edge, _, inside⟩ := List.mem_flatMap.mp member
  exact sign_not_mem_edgeLine (by decide) edge inside

/-- The markup of a chart is that of its labels. -/
theorem markupBehind_mermaid : MarkupBehind g.mermaid.toList front ↔
    ∃ n node inner, g.nodes[n]? = some node ∧ MarkupBehind node.label.toList inner ∧
      front = g.labelFront n ++ inner := by
  have last : MarkupBehind (g.mermaid.toList ++ ['\n']) front ↔
      MarkupBehind g.mermaid.toList front := by
    rw [markupBehind_append (apart_of_head (by simp [beginsMarkup]))]
    simp [not_markupBehind_of_not_mem]
  have seam : Apart g.nodeText g.edgeText := by
    rw [nodeText_eq]
    exact apart_of_last (getLast?_flatMap (by simp [nodeLine]))
  have header : '<' ∉ "flowchart LR\n".toList := by simp
  rw [← last, mermaid_eq, markupBehind_append (apart_of_not_mem header)]
  simp only [markupBehind_append seam, not_markupBehind_of_not_mem header,
    not_markupBehind_of_not_mem (markup_not_mem_edgeText g), false_and, exists_false, or_false,
    false_or, markupBehind_nodeText]
  constructor
  · rintro ⟨_, ⟨n, node, inner, stored, markup, rfl⟩, rfl⟩
    exact ⟨n, node, inner, stored, markup, (labelFront_append n inner).symm⟩
  · rintro ⟨n, node, inner, stored, markup, rfl⟩
    exact ⟨_, ⟨n, node, inner, stored, markup, rfl⟩, labelFront_append n inner⟩

theorem markupBehind_opening {front : List Char} :
    MarkupBehind "<div class=\"mermaid\">".toList front ↔ front = [] := by
  have tag : "<div class=\"mermaid\">".toList = '<' :: "div class=\"mermaid\">".toList := rfl
  rw [tag]
  exact markupBehind_tag rfl (by simp)

theorem apart_closing (text : List Char) : Apart text "</div>".toList :=
  apart_of_head (by simp [beginsMarkup])

theorem markupBehind_closing {front : List Char} :
    MarkupBehind "</div>".toList front ↔ front = [] := by
  have tag : "</div>".toList = '<' :: "/div>".toList := rfl
  rw [tag]
  exact markupBehind_tag rfl (by simp)

/-- The element of a chart has the markup of its own tags and that of the labels. -/
theorem markupBehind_html : MarkupBehind (g.render .html).toList front ↔
    front = [] ∨ front ++ "</div>".toList = (g.render .html).toList ∨
      ∃ n node inner, g.nodes[n]? = some node ∧ MarkupBehind node.label.toList inner ∧
        front = "<div class=\"mermaid\">".toList ++ (g.labelFront n ++ inner) := by
  have first : Apart "<div class=\"mermaid\">".toList (g.mermaid.toList ++ "</div>".toList) :=
    apart_of_last (by simp)
  have last (front : List Char) : front ++ "</div>".toList = (g.render .html).toList ↔
      front = "<div class=\"mermaid\">".toList ++ g.mermaid.toList := by
    rw [html_eq, ← List.append_assoc]
    exact List.append_left_inj _
  rw [last, html_eq, markupBehind_append first, markupBehind_opening]
  simp only [markupBehind_append (apart_closing _), markupBehind_closing, markupBehind_mermaid]
  constructor
  · rintro (opening | ⟨_, ⟨n, node, inner, stored, markup, rfl⟩ | ⟨_, rfl, rfl⟩, rfl⟩)
    · exact .inl opening
    · exact .inr (.inr ⟨n, node, inner, stored, markup, rfl⟩)
    · exact .inr (.inl (by rw [List.append_nil]))
  · rintro (opening | rfl | ⟨n, node, inner, stored, markup, rfl⟩)
    · exact .inl opening
    · exact .inr ⟨_, .inr ⟨[], rfl, (List.append_nil _).symm⟩, rfl⟩
    · exact .inr ⟨_, .inl ⟨n, node, inner, stored, markup, rfl⟩, rfl⟩

theorem contains_iff : Contains (g.render .html) (g.render .mermaid) ↔
    ∀ node ∈ g.nodes, ¬ ∃ front, MarkupBehind node.label.toList front := by
  constructor
  · rintro contains node member ⟨inner, markup⟩
    obtain ⟨n, stored⟩ := Array.getElem?_of_mem member
    have inside : MarkupBehind g.mermaid.toList (g.labelFront n ++ inner) :=
      markupBehind_mermaid.mpr ⟨n, node, inner, stored, markup, rfl⟩
    obtain ⟨rest, split, begins⟩ := inside
    rcases contains.markup _ (markupBehind_html.mpr (.inr (.inr ⟨n, node, inner, stored, markup, rfl⟩)))
      with first | last
    · simp at first
    · -- Markup at the end of the chart would be a mark with nothing behind it.
      rw [html_eq, List.append_assoc, List.append_right_inj, List.append_left_inj] at last
      have nothing : rest = [] := by rwa [last, List.self_eq_append_right] at split
      rw [nothing] at begins
      cases begins
  · intro plain
    refine ⟨html_eq g, fun front markup => ?_⟩
    rcases markupBehind_html.mp markup with opening | closing | ⟨n, node, inner, stored, inside, _⟩
    · exact .inl opening
    · exact .inr closing
    · exact absurd ⟨inner, inside⟩ (plain node (Array.mem_of_getElem? stored))

/-- The lines of the nodes, each with the line break in front of it. -/
def nodeRow (entry : Node × Nat) : List Char := '\n' :: (entry.1.mermaidLine entry.2).toList

theorem mermaid_rows (g : Graph) : g.mermaid.toList = "flowchart LR".toList ++
    (g.nodes.toList.zipIdx.flatMap nodeRow ++
      g.edges.toList.flatMap fun edge => '\n' :: edge.mermaidLine.toList) := by
  rw [mermaid, mermaidLines, List.cons_append, toList_rows, List.flatMap_append, List.flatMap_map,
    List.flatMap_map]
  rfl

section Page

variable {refs : References}

/-- A page reads the line of a node as it stands if it reads its label so. -/
theorem inert_nodeRow (entry : Node × Nat) (more : List Char) :
    Inert refs (nodeRow entry) more ↔ Literal refs entry.1.label.toList := by
  have row : nodeRow entry = '\n' :: ((nodeId entry.2).toList ++ "[\"".toList) ++
      (entry.1.label.toList ++ '"' :: [']']) := by
    simp [nodeRow, Node.mermaidLine]
  have front : ∀ c ∈ signs, c ∉ '\n' :: ((nodeId entry.2).toList ++ "[\"".toList) := by
    intro c sign
    have other : ∀ c ∈ signs, c ∉ '\n' :: "[\"".toList := by simp [signs]
    have outside := other c sign
    rw [List.mem_cons, not_or] at outside
    simp only [List.mem_cons, List.mem_append, not_or]
    exact ⟨outside.1, sign_not_mem_nodeId sign _, outside.2⟩
  have behind : ∀ c ∈ signs, c ∉ '"' :: [']'] := by simp [signs]
  rw [row, inert_append, inert_append, List.cons_append, inert_quoted]
  simp only [inert_of_solid front, inert_of_solid behind, true_and, and_true]

theorem inert_mermaid (more : List Char) :
    Inert refs g.mermaid.toList more ↔ ∀ node ∈ g.nodes, Literal refs node.label.toList := by
  have header : ∀ c ∈ signs, c ∉ "flowchart LR".toList := by simp [signs]
  have edges : ∀ c ∈ signs, c ∉ g.edges.toList.flatMap fun edge => '\n' :: edge.mermaidLine.toList := by
    intro c sign member
    obtain ⟨edge, _, inside⟩ := List.mem_flatMap.mp member
    exact sign_not_mem_edgeLine sign edge (by simpa [or_comm] using inside)
  rw [mermaid_rows, inert_append, inert_append,
    inert_flatMap (fun entry _ more => inert_nodeRow entry more)]
  simp only [inert_of_solid header, inert_of_solid edges, true_and, and_true]
  constructor
  · intro literal node member
    obtain ⟨n, stored⟩ := Array.getElem?_of_mem member
    exact literal (node, n) (List.mem_zipIdx_iff_getElem?.mpr (by simpa using stored))
  · rintro literal ⟨node, n⟩ member
    exact literal node (Array.mem_toList_iff.mp (List.fst_mem_of_mem_zipIdx member))

theorem pageText?_html : pageText? refs (g.render .html) = some g.mermaid ↔
    Inert refs g.mermaid.toList "</div>".toList := by
  have taken : takeWord? "<div class=\"mermaid\">" (g.render .html).toList =
      some (g.mermaid.toList ++ "</div>".toList) := by
    rw [html_eq]
    exact takeWord?_append _ _
  simp only [pageText?, taken, bind, Option.bind_some]
  constructor
  · intro read
    split at read
    · rename_i closed
      have chart : (readPage refs 0 (g.mermaid.toList ++ "</div>".toList)).1 = g.mermaid.toList := by
        have same := congrArg String.toList (Option.some.inj read)
        rwa [String.toList_ofList] at same
      have inert := inert_readPage refs (g.mermaid.toList ++ "</div>".toList)
      rw [closed, chart] at inert
      exact inert rfl
    · cases read
  · intro inert
    simp only [readPage_inert inert rfl, if_pos, String.ofList_toList]

end Page

theorem labelFront_prefix {n : Nat} {node : Node} (stored : g.nodes[n]? = some node) :
    g.labelFront n ++ node.label.toList <+: g.mermaid.toList := by
  have whole : ∃ rest, g.mermaid.toList ++ ['\n'] =
      g.labelFront n ++ node.label.toList ++ ("\"]\n".toList ++ rest) := by
    have regroup (a b c d e f h : List Char) :
        a ++ ((b ++ ((c ++ (d ++ e)) ++ f)) ++ h) = a ++ (b ++ c) ++ d ++ (e ++ (f ++ h)) := by
      simp only [List.append_assoc]
    rw [mermaid_eq, nodeText_eq, nodes_split stored, List.flatMap_append, List.flatMap_cons,
      nodeLine_eq]
    exact ⟨_, regroup _ _ _ _ _ _ _⟩
  obtain ⟨rest, whole⟩ := whole
  rcases List.prefix_concat_iff.mp ⟨_, whole.symm⟩ with same | shorter
  · rw [same, List.append_assoc] at whole
    simp at whole
  · exact shorter

/-- The element of a chart holds the Mermaid text with its labels as they are. Its markup is that of
its own two tags and that of the labels, so the element ends at its end exactly if no text that became a
label has markup. And a page reads the whole chart in it exactly if no label has anything that pages read
in another way. -/
theorem html_contains (additions : List Addition) :
    (∀ front, MarkupBehind ((empty.addAll additions).render .html).toList front ↔
      front = [] ∨
      front ++ "</div>".toList = ((empty.addAll additions).render .html).toList ∨
      ∃ n node inner, (empty.addAll additions).nodes[n]? = some node ∧
        MarkupBehind node.label.toList inner ∧
        front = "<div class=\"mermaid\">".toList ++
          ((empty.addAll additions).labelFront n ++ inner)) ∧
    (∀ n node, (empty.addAll additions).nodes[n]? = some node →
      (empty.addAll additions).labelFront n ++ node.label.toList <+:
        ((empty.addAll additions).render .mermaid).toList) ∧
    (Contains ((empty.addAll additions).render .html) ((empty.addAll additions).render .mermaid) ↔
      ∀ text ∈ texts additions, ¬ ∃ front, MarkupBehind text.1.toList front) ∧
    ∀ refs : References,
      pageText? refs ((empty.addAll additions).render .html) =
          some ((empty.addAll additions).render .mermaid) ↔
        ∀ node ∈ (empty.addAll additions).nodes, Literal refs node.label.toList := by
  refine ⟨fun front => markupBehind_html, fun n node => labelFront_prefix, ?_,
    fun refs => pageText?_html.trans (inert_mermaid _)⟩
  rw [contains_iff]
  simp only [← Array.mem_toList_iff, nodes_addAll, empty, List.nil_append, List.forall_mem_map,
    markupBehind_escapeLabel]

/-- The statement of a script that writes a closing tag. -/
def closingTag : List Addition := [.node "x = \"</div>\";" .expression]

/-- A mask that looks like a reference, and two labels with a break and a null character. -/
def maskedCopy : List Addition :=
  [.node "mask &copy;" .expression, .node "a\x0db" .expression, .node "c\x00d" .expression]

def copyright : References := .single "copy;".toList ['©'] (by decide) (by decide)

theorem closingTag_breaks_out : Addition.Joins 0 closingTag ∧
    ((empty.addAll closingTag).render .html) =
      "<div class=\"mermaid\">flowchart LR\nnode0[\"x = '</div>';\"]</div>" ∧
    ¬ Contains ((empty.addAll closingTag).render .html)
      ((empty.addAll closingTag).render .mermaid) ∧
    pageText? copyright ((empty.addAll maskedCopy).render .html) =
      some "flowchart LR\nnode0[\"mask ©\"]\nnode1[\"a\nb\"]\nnode2[\"cd\"]" ∧
    ((empty.addAll maskedCopy).render .mermaid) =
      "flowchart LR\nnode0[\"mask &copy;\"]\nnode1[\"a\x0db\"]\nnode2[\"c\x00d\"]" := by
  have shown : (empty.addAll closingTag).render .html =
      "<div class=\"mermaid\">flowchart LR\nnode0[\"x = '</div>';\"]</div>" := by decide +kernel
  refine ⟨trivial, shown, fun contains => ?_, by decide +kernel, by decide +kernel⟩
  have early := contains.markup "<div class=\"mermaid\">flowchart LR\nnode0[\"x = '".toList
  rw [shown] at early
  rcases early ⟨"</div>';\"]</div>".toList, by decide +kernel, by decide +kernel⟩ with first | last
  · revert first
    decide +kernel
  · revert last
    decide +kernel

end Graph

end Flowchart
