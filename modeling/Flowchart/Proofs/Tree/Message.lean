import Flowchart.Proofs.Statement.Order
import Flowchart.Proofs.Text.Token
import Flowchart.Proofs.Tree.Search

/-! The wording of errors. A message is one short line, and what it calls unexpected stands in the
script at the place of the error. -/
namespace Flowchart.Tree

def Nested (t : Tree) : Prop := ∀ child ∈ t.children, child.span.Inside t.span

/-- The first node below another, in document order, that has nothing below it. -/
def firstLeaf? (t : Tree) : Option Tree := t.preorder.find? fun u => u.children.isEmpty

/-- The text that the first leaf of a node has, or the node itself if that is blank. -/
inductive Shows (source : String) (t : Tree) : String → Prop
  | leaf {leaf text} (first : t.firstLeaf? = some leaf) (read : leaf.span.Reads source text)
      (solid : Text.isBlankText text = false) : Shows source t text
  | whole {leaf gap text} (first : t.firstLeaf? = some leaf) (read : leaf.span.Reads source gap)
      (blank : Text.isBlankText gap) (around : t.span.Reads source text) : Shows source t text

structure Quotes (source : String) (t : Tree) (token : String) : Prop where
  some : token ≠ ""
  short : token.length ≤ 24
  solid : ∀ c ∈ token.toList, Text.isBlank c = false
  inside : ∃ front back, source = front ++ token ++ back ∧ t.span.start ≤ front.utf8ByteSize ∧
    (front ++ token).utf8ByteSize ≤ t.span.stop
  first : ∃ text word, Shows source t text ∧ Text.FirstWord text word ∧
    token.toList = word.toList.take 24

section Leaf

variable {p : Tree → Prop} {t u : Tree}

mutual

theorem every_of_mem : ∀ {t : Tree}, t.Every p → u ∈ t.preorder → u.Every p
  | node info children => by
    intro every member
    rw [preorder, List.mem_cons] at member
    rcases member with rfl | below
    · exact every
    · exact every_of_memIn every.2 below

theorem every_of_memIn : ∀ {ts : List Tree}, EveryIn p ts → u ∈ preorderIn ts → u.Every p
  | [] => by
    intro _ member
    cases member
  | t :: rest => by
    intro every member
    rcases List.mem_append.mp member with here | later
    · exact every_of_mem every.1 here
    · exact every_of_memIn every.2 later

end

theorem firstLeaf?_eq (t : Tree) : t.firstLeaf? = some t.firstLeaf := by
  fun_induction firstLeaf t with
  | case1 info => rfl
  | case2 info first rest ih =>
    rw [firstLeaf?] at ih ⊢
    rw [preorder, List.find?_cons_of_neg (by simp [children]), preorderIn, List.find?_append, ih,
      Option.some_or]

theorem firstLeaf_mem (t : Tree) : t.firstLeaf ∈ t.preorder :=
  List.mem_of_find?_eq_some (firstLeaf?_eq t)

theorem firstLeaf_inside (nested : t.Every Nested) : t.firstLeaf.span.Inside t.span := by
  fun_induction firstLeaf t with
  | case1 info => exact Span.Inside.refl _
  | case2 info first rest ih =>
    have member : first ∈ (node info (first :: rest)).children := List.mem_cons_self
    exact (ih (nested.below member)).trans (nested.here first member)

end Leaf

section Text

variable {source : String} {t : Tree}

theorem shows_errorText (within : t.span.Within source) (leaf : t.firstLeaf.span.Within source) :
    Shows source t (t.errorText source) := by
  obtain ⟨ofLeaf, leaf⟩ := leaf.reads
  obtain ⟨whole, around⟩ := within.reads
  rw [errorText, Span.slice?_eq_some_iff.mpr leaf, Span.slice?_eq_some_iff.mpr around]
  cases blank : Text.isBlankText ofLeaf with
  | false => simpa [Option.filter, blank] using Shows.leaf (firstLeaf?_eq t) leaf blank
  | true => simpa [Option.filter, blank] using Shows.whole (firstLeaf?_eq t) leaf blank around

theorem Shows.inside {text whole : String} (shows : Shows source t text)
    (around : t.span.Reads source whole) (nested : t.Every Nested) :
    ∃ before behind, whole = before ++ text ++ behind := by
  cases shows with
  | leaf first read _ =>
    cases (firstLeaf?_eq t).symm.trans first
    have inner := firstLeaf_inside nested
    exact read.inside around inner.start inner.stop
  | whole _ _ _ around' => exact ⟨"", "", by simp [around.unique around']⟩

/-- What is shown of a node is blank only where all of it is. -/
theorem Shows.blank_iff {text whole : String} (shows : Shows source t text)
    (around : t.span.Reads source whole) (nested : t.Every Nested) :
    Text.isBlankText text ↔ Text.isBlankText whole := by
  constructor
  · intro blank
    cases shows with
    | leaf _ _ solid => exact absurd blank (by simp [solid])
    | whole _ _ _ around' => exact around.unique around' ▸ blank
  · intro blank
    obtain ⟨before, behind, rfl⟩ := shows.inside around nested
    rw [Text.isBlankText_iff] at blank ⊢
    exact fun c member => blank c (by simp [member])

theorem quotes_of_firstWord {text word whole : String} (shows : Shows source t text)
    (first : Text.FirstWord text word) (around : t.span.Reads source whole)
    (nested : t.Every Nested) : Quotes source t (String.ofList (word.toList.take 24)) := by
  obtain ⟨before, behind, rfl⟩ := shows.inside around nested
  obtain ⟨gap, rest, rfl, -, -⟩ := first.first
  obtain ⟨front, back, cut, start, stop⟩ := around
  have split : word = String.ofList (word.toList.take 24) ++ String.ofList (word.toList.drop 24) := by
    rw [← String.ofList_append, List.take_append_drop, String.ofList_toList]
  refine ⟨?_, ?_, fun c member => ?_, ?_, ?_⟩
  · simpa using first.some
  · rw [← String.length_toList, String.toList_ofList]
    exact List.length_take_le 24 _
  · rw [String.toList_ofList] at member
    exact first.solid c (List.mem_of_mem_take member)
  · refine ⟨front ++ before ++ gap, String.ofList (word.toList.drop 24) ++ rest ++ behind ++ back,
      ?_, ?_, ?_⟩
    · rw [cut]
      conv => lhs; rw [split]
      simp only [String.append_assoc]
    · rw [← start]
      simp only [String.utf8ByteSize_append]
      omega
    · rw [← stop]
      have size := congrArg String.utf8ByteSize split
      simp only [String.utf8ByteSize_append] at size ⊢
      omega
  · exact ⟨_, _, shows, first, String.toList_ofList⟩

/-- The words for the first error of a tree say what is missing, or quote the beginning of the first
word at its place, whole characters of the script. -/
theorem read_words {tree? : String → Option Tree} (found : tree? source = some t)
    (flagged : ∀ u ∈ t.preorder, u.Flagged) (within : ∀ u ∈ t.preorder, u.span.Within source)
    (nested : ∀ u ∈ t.preorder, u.Nested) (error : ∃ u ∈ t.preorder, u.isError) :
    ∃ place, t.preorder.find? isError = some place ∧
      read tree? source = .error (.parse
        ⟨"Line " ++ toString (place.info.row + 1) ++ ": " ++ place.errorDetail source,
          some place.info.row, some place.info.column⟩) ∧
      (place.info.origin = .missing → place.errorDetail source = "Missing " ++ place.kind) ∧
      (place.info.origin ≠ .missing → ∃ token,
        place.errorDetail source = "Unexpected token " ++ token ∧
        (token = "end of input" ↔ ∃ text, place.span.Reads source text ∧ Text.isBlankText text) ∧
        (token ≠ "end of input" → Quotes source place token)) := by
  obtain ⟨place, here⟩ := Option.isSome_iff_exists.mp (List.find?_isSome.mpr error)
  have faulty : t.info.faulty := flagged t (preorder_eq t ▸ List.mem_cons_self) error
  have first := firstError?_eq_find? flagged
  have member := List.mem_of_find?_eq_some here
  have nested := every_of_mem ((every_iff t).mpr nested) member
  have leaf := (every_iff place).mp (every_of_mem ((every_iff t).mpr within) member) _
    place.firstLeaf_mem
  have shows := shows_errorText (within place member) leaf
  obtain ⟨whole, around⟩ := (within place member).reads
  have blank := shows.blank_iff around nested
  refine ⟨place, here, ?_, fun missing => ?_, fun other => ?_⟩
  · simp only [read, found, faulty, if_true, parseFault, first, here, Option.getD_some, faultAt]
  · simp only [errorDetail, missing]
  · have quoted : place.errorDetail source =
        "Unexpected token " ++ Text.firstToken (place.errorText source) := by
      unfold errorDetail
      split
      · exact absurd ‹_› other
      · rfl
    refine ⟨_, quoted, ?_⟩
    rcases Text.firstToken_cases (place.errorText source) with ⟨empty, ended⟩ | ⟨word, first, kept⟩
    · exact ⟨⟨fun _ => ⟨whole, around, blank.mp empty⟩, fun _ => ended⟩, fun run => absurd ended run⟩
    · have quotes := kept ▸ quotes_of_firstWord shows first around nested
      refine ⟨⟨fun ended => ?_, ?_⟩, fun _ => quotes⟩
      · -- The words for the end have blanks between them, and a quoted token has none.
        exact absurd (quotes.solid ' ' (ended ▸ by decide)) (by decide)
      · rintro ⟨text, around', empty⟩
        have empty := blank.mpr (around.unique around' ▸ empty)
        exact absurd empty (Text.not_blank_of_firstWord first)

/-- What could not be read of `a` and, on the next line, `é((` behind a wide blank. It begins with the
semicolon that the line break stands for. -/
def garbledPart : Tree :=
  node ⟨"ERROR", true, false, .fault, true, [], ⟨2, 9⟩, 1, 0⟩ [
    node ⟨";", false, false, .read, false, [], ⟨2, 2⟩, 1, 0⟩ [],
    node ⟨"identifier", true, false, .read, false, [], ⟨5, 7⟩, 1, 3⟩ []]

def garbledTree : Tree :=
  node ⟨"program", true, false, .read, true, [], ⟨0, 9⟩, 0, 0⟩ [
    node ⟨"expression_statement", true, false, .read, false, [], ⟨0, 1⟩, 0, 0⟩ [], garbledPart]

theorem garbledTree_quoted :
    (∀ u ∈ garbledTree.preorder, u.Flagged) ∧
      (∀ u ∈ garbledTree.preorder, u.span.Within "a\n\u3000é((") ∧
      (∀ u ∈ garbledTree.preorder, u.Nested) ∧
      read (fun _ => some garbledTree) "a\n\u3000é((" =
        .error (.parse ⟨"Line 2: Unexpected token é((", some 1, some 0⟩) ∧
      Quotes "a\n\u3000é((" garbledPart "é((" := by
  have flagged : ∀ u ∈ garbledTree.preorder, u.Flagged := by decide
  have within : ∀ u ∈ garbledTree.preorder, u.span.Within "a\n\u3000é((" := by decide +kernel
  have nested : ∀ u ∈ garbledTree.preorder, u.Nested := by
    simp [garbledTree, garbledPart, preorder, preorderIn, Nested, Span.inside_iff, children, span, info]
  obtain ⟨place, first, refused, _, other⟩ :=
    @read_words "a\n\u3000é((" garbledTree (fun _ => some garbledTree) rfl flagged within nested
      ⟨garbledPart, by simp [garbledTree, garbledPart, preorder, preorderIn], rfl⟩
  cases first
  obtain ⟨token, quoted, _, quotes⟩ := other (by decide)
  have detail : garbledPart.errorDetail "a\n\u3000é((" = "Unexpected token " ++ "é((" := by
    decide +kernel
  cases String.append_right_inj _ |>.mp (detail.symm.trans quoted)
  rw [quoted] at refused
  exact ⟨flagged, within, nested, refused, quotes (by decide)⟩

end Text

end Flowchart.Tree
