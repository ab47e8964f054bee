import Flowchart.Fault.Line
import Flowchart.Text.Span

/-! What may go wrong between a script and its chart, and how it is worded. -/
namespace Flowchart

/-- A script that cannot be read. Lines and columns count from 0 and are absent where the reader
knows no place. -/
structure ParseFault where
  message : String
  line : Option Nat
  column : Option Nat
deriving DecidableEq, Inhabited, Repr

namespace ParseFault

/-- The known line, else the one that the message names. -/
def line? (fault : ParseFault) : Option Nat := fault.line.or (lineOfMessage? fault.message)

end ParseFault

/-- A statement tree that cannot be walked. -/
inductive WalkFault
  | outside (span : Span) (length : Nat)
  | tooDeep (limit : Nat)
deriving DecidableEq, Repr

def WalkFault.message : WalkFault → String
  | .outside span length =>
    "source range " ++ toString span.start ++ ".." ++ toString span.stop ++
      " is outside the script (" ++ toString length ++ " bytes)"
  | .tooDeep limit => "statements nested deeper than " ++ toString limit ++ " levels"

/-- A failed synthesis. -/
inductive Fault
  | parse (fault : ParseFault)
  | walk (fault : WalkFault)
  | tooDeep (limit line : Nat)
deriving DecidableEq, Repr

namespace Fault

def message : Fault → String
  | parse fault => fault.message
  | walk fault => fault.message
  | tooDeep limit line =>
    "Line " ++ toString (line + 1) ++ ": statements nested deeper than " ++ toString limit ++
      " levels"

/-- The line where the fault lies, counted from 0. -/
def line? : Fault → Option Nat
  | parse fault => fault.line?
  | walk _ => none
  | tooDeep _ line => some line

/-- What is shown in place of a chart. -/
def shown (fault : Fault) : String := "Flowchart Error: " ++ fault.message

end Fault

end Flowchart
