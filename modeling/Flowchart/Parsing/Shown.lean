import Flowchart.Parsing.Phrase
import Flowchart.Tree

/-! The tree that a phrase stands for. Hidden phrases show their children in their own place, and
pass on the fields that they fill. -/
namespace Flowchart.Parsing

open Flowchart.Grammar

/-- Work on a tree from right to left: a phrase to show under a label and in fields that its parent
gave it, or a node whose children are all there. -/
private inductive Job
  | show (phrase : Phrase) (label : Option Label) (fields : List String)
  | close (phrase : Phrase) (label : Label) (fields : List String)

private def ownLabel (t : Table) : Kind → Option Label
  | .symbol n => (t.symbols[n]!).label
  | .skipping => none
  | .fault => some ⟨"ERROR", true⟩

/-- What a phrase shows in its parent is not nothing. -/
private def showsAnything (p : Phrase) (label : Option Label) : Bool :=
  label.isSome || p.visible || p.shown > 0

/-- The jobs for children from index `index` on. The first one that shows anything also fills the
fields that were passed on. -/
private def childJobs (shape : Shape) : Nat → List String → List Phrase → List Job
  | _, _, [] => []
  | index, passed, p :: rest =>
    let label := if p.extra then none else (shape.labels[index]?).getD none
    let own := if p.extra then [] else
      shape.fields.filterMap fun (name, i, inherited) =>
        if i == index && !inherited then some name else none
    let first := showsAnything p label
    .show p label (if first then passed ++ own else own) ::
      childJobs shape (if p.extra then index else index + 1) (if first then [] else passed) rest

private def Phrase.origin (p : Phrase) : Origin :=
  if p.missing then .missing else if p.isFault then .fault else .read

private def Phrase.info (p : Phrase) (label : Label) (fields : List String) : NodeInfo :=
  { kind := label.kind, named := label.named, extra := p.extra, origin := p.origin
    faulty := p.cost > 0, fields, span := ⟨p.start.byte, p.stop.byte⟩
    row := p.start.row, column := p.start.column }

/-- Does the jobs. The lists of nodes belong to the nodes that are open, the innermost first. -/
private def assemble (t : Table) : Nat → List Job → List (List Tree) → List (List Tree)
  | 0, _, pending => pending
  | _, [], pending => pending
  | fuel + 1, .close p label fields :: jobs, children :: siblings :: outer =>
    assemble t fuel jobs ((.node (p.info label fields) children :: siblings) :: outer)
  | fuel + 1, .close _ _ _ :: jobs, pending => assemble t fuel jobs pending
  | fuel + 1, .show p label fields :: jobs, pending =>
    let shape := if p.kind == .fault then ⟨[], []⟩ else t.shapes[p.shape]!
    match label.or (ownLabel t p.kind) with
    | some shown =>
      assemble t fuel ((childJobs shape 0 [] p.children).reverse ++ .close p shown fields :: jobs)
        ([] :: pending)
    | none => assemble t fuel ((childJobs shape 0 fields p.children).reverse ++ jobs) pending

/-- The tree of a phrase that stands for a node. -/
def Phrase.tree? (t : Table) (p : Phrase) : Option Tree :=
  ((assemble t (2 * p.size + 2) [.show p none []] [[]]).head?).bind (·.head?)

end Flowchart.Parsing
