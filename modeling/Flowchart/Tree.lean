import Flowchart.Text.Span

/-! Concrete trees: everything that a parser found in a script, each node with its place. -/
namespace Flowchart

/-- How a node came about: read from the text, made up for a missing token, or put around text that
could not be read. -/
inductive Origin
  | read
  | missing
  | fault
deriving DecidableEq, Inhabited, Repr

/-- What is known of a node beside its children. Named nodes carry meaning, extras may stand
anywhere; `faulty` says that the node or one below it is missing or a fault, and `fields` are the
fields of the parent that it fills. Row and column of its start count from 0, columns in bytes. -/
structure NodeInfo where
  kind : String
  named : Bool
  extra : Bool
  origin : Origin
  faulty : Bool
  fields : List String
  span : Span
  row : Nat
  column : Nat
deriving DecidableEq, Inhabited, Repr

inductive Tree
  | node (info : NodeInfo) (children : List Tree)
deriving Inhabited

namespace Tree

def info : Tree → NodeInfo
  | node info _ => info

def children : Tree → List Tree
  | node _ children => children

def kind (t : Tree) : String := t.info.kind

def span (t : Tree) : Span := t.info.span

/-- A node that means something to the statement around it: a named one that is no comment. -/
def isPart (t : Tree) : Bool := t.info.named && !t.info.extra

/-- The children that mean something. -/
def parts (t : Tree) : List Tree := t.children.filter isPart

/-- The first child that fills a field. -/
def field? (t : Tree) (name : String) : Option Tree :=
  t.children.find? fun child => child.info.fields.contains name

end Tree

end Flowchart
