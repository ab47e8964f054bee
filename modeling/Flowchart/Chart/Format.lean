import Flowchart.Chart.Dot
import Flowchart.Chart.Json
import Flowchart.Chart.Mermaid

/-! The formats in which a chart is written. -/
namespace Flowchart

inductive ChartFormat
  | mermaid
  | html
  | json
  | dot
deriving DecidableEq, Inhabited, Repr

namespace ChartFormat

def all : List ChartFormat := [mermaid, html, json, dot]

def name : ChartFormat → String
  | mermaid => "mermaid"
  | html => "html"
  | json => "json"
  | dot => "dot"

/-- The letters A to Z in lower case; other characters stay. -/
def lowered (text : String) : String := text.map Char.toLower

/-- Reads a format's name in any case of letters; `mmd` is Mermaid too. -/
def ofName? (text : String) : Option ChartFormat :=
  let name := lowered text
  if name == "mmd" then some mermaid else all.find? fun format => format.name == name

/-- What is said about a name that is no format. -/
def unknownMessage (text : String) : String :=
  "unknown chart format `" ++ lowered text ++ "` (expected one of: " ++
    ", ".intercalate (all.map ChartFormat.name) ++ ")"

end ChartFormat

/-- The text of a graph in a format. -/
def Graph.render (g : Graph) : ChartFormat → String
  | .mermaid => g.mermaid
  | .html => mermaidBlock g.mermaid
  | .json => g.json
  | .dot => g.dot

/-- A finished chart in its format. -/
structure ChartBlock where
  format : ChartFormat
  body : String
deriving DecidableEq, Inhabited, Repr

end Flowchart
