import Flowchart.Chart.Graph

/-! Charts as JSON text: objects with their keys in order, two blanks for each level. -/
namespace Flowchart

/-- The JSON values that a chart is made of. -/
inductive Json
  | text (value : String)
  | list (items : List Json)
  | record (fields : List (String × Json))
deriving Inhabited

namespace Json

/-- A character inside a JSON string. -/
def escapeChar (c : Char) : List Char :=
  if c == '"' then ['\\', '"']
  else if c == '\\' then ['\\', '\\']
  else if c == '\x08' then ['\\', 'b']
  else if c == '\x0c' then ['\\', 'f']
  else if c == '\n' then ['\\', 'n']
  else if c == '\r' then ['\\', 'r']
  else if c == '\t' then ['\\', 't']
  else if c.toNat < 0x20 then
    ['\\', 'u', '0', '0', Nat.digitChar (c.toNat / 16), Nat.digitChar (c.toNat % 16)]
  else [c]

def quote (value : String) : String :=
  String.ofList (['"'] ++ value.toList.flatMap escapeChar ++ ['"'])

/-- The start of a line at a level. -/
def newLine (level : Nat) : String := String.ofList ('\n' :: List.replicate (2 * level) ' ')

mutual

/-- The text of a value whose first line stands at a level. -/
def pretty (level : Nat) : Json → String
  | text value => quote value
  | list [] => "[]"
  | list items =>
    "[" ++ ",".intercalate (prettyItems (level + 1) items) ++ newLine level ++ "]"
  | record [] => "\x7b\x7d"
  | record fields =>
    "\x7b" ++ ",".intercalate (prettyFields (level + 1) fields) ++ newLine level ++ "\x7d"

def prettyItems (level : Nat) : List Json → List String
  | [] => []
  | item :: rest => (newLine level ++ pretty level item) :: prettyItems level rest

def prettyFields (level : Nat) : List (String × Json) → List String
  | [] => []
  | (key, value) :: rest =>
    (newLine level ++ quote key ++ ": " ++ pretty level value) :: prettyFields level rest

end

end Json

/-- The group that a kind of node is listed under. -/
def NodeKind.group : NodeKind → String
  | function => "function"
  | declaration => "variable"
  | condition => "condition"
  | loop => "loop"
  | expression => "expression"
  | exit => "return"

def Node.json (node : Node) (n : Nat) : Json :=
  .record [("group", .text node.kind.group), ("id", .text (nodeId n)),
    ("label", .text node.label)]

def Edge.json (edge : Edge) : Json :=
  .record [("from", .text (nodeId edge.source)),
    ("label", .text ((edge.branch.map Branch.word).getD "")),
    ("to", .text (nodeId edge.target))]

def Graph.jsonValue (g : Graph) : Json :=
  .record [("edges", .list (g.edges.toList.map Edge.json)),
    ("nodes", .list (g.nodes.toList.zipIdx.map fun (node, n) => node.json n))]

def Graph.json (g : Graph) : String := g.jsonValue.pretty 0

end Flowchart
