import Flowchart.Parsing.Parser
import Flowchart.Parsing.Shown
import Flowchart.Script.Language
import Flowchart.Tree.Lowering

/-! Reading scripts. A script is read as a whole or not at all. -/
namespace Flowchart.Script

/-- The concrete tree of a script. -/
def tree? (source : String) : Option Tree := do
  let phrase ← language.read source.toList
  phrase.tree? table

/-- The statements of a script. -/
def parse : String → Except Fault Statement := Tree.parse (.ok tree?)

end Flowchart.Script
