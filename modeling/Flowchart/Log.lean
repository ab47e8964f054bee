import Flowchart.Text.Quoted
import Flowchart.Text.Span

/-! What is told about a run beside its results, to those who ask for it. -/
namespace Flowchart

/-- What may be worth telling of a run. -/
inductive Remark
  | passedOver (span : Span) (kind : String)
  | synthesized (nodes edges : Nat)
  | written (path : String)
  | unwritten (path cause : String)
deriving DecidableEq, Repr

namespace Remark

/-- How much has to be asked for before a remark is told. -/
def level : Remark → Nat
  | unwritten .. => 0
  | synthesized .. | written .. => 2
  | passedOver .. => 3

/-- The words for a remark. In a log the time stands in front of them. -/
def text : Remark → String
  | passedOver span kind =>
    "TRACE flowscript::processors: skipping unsupported statement kind=" ++ kind ++
      " start=" ++ toString span.start
  | synthesized nodes edges =>
    "DEBUG flowscript::synthesizer: flowchart synthesized nodes=" ++ toString nodes ++
      " edges=" ++ toString edges
  | written path => "DEBUG flowscript::render: chart written path=" ++ Text.quoted path
  | unwritten path cause =>
    " WARN flowscript::render: failed to write error message path=" ++ Text.quoted path ++
      " error=" ++ cause

/-- The remarks that are told when a certain level is asked for. -/
def shown (level : Nat) (remarks : List Remark) : List Remark :=
  remarks.filter fun remark => remark.level ≤ level

end Remark

end Flowchart
