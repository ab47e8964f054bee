/-! Grammars as data. A rule says what a phrase is made of; its annotations say how tightly the
phrase binds, under which name a part is shown, and which field of its node a part fills. -/
namespace Flowchart.Grammar

/-- How tightly a phrase binds. Numbers compare with numbers, names by the grammar's orderings. -/
inductive Strength
  | plain
  | level (n : Int)
  | named (name : String)
deriving BEq, Hashable, Inhabited

/-- To which side a phrase groups when its strength equals its neighbour's. -/
inductive Side
  | left
  | right
deriving BEq, Hashable, Inhabited

/-- What a node is called. Named nodes carry meaning, the others only spell a piece of text. -/
structure Label where
  kind : String
  named : Bool
deriving BEq, Hashable, Inhabited

/-- What a phrase is made of. -/
inductive Rule
  | blank
  | symbol (name : String)
  | text (literal : String)
  | lexeme
  | seq (parts : List Rule)
  | oneOf (choices : List Rule)
  | repeated (part : Rule)
  | binding (strength : Strength) (side : Option Side) (part : Rule)
  | weighing (weight : Int) (part : Rule)
  | shownAs (label : Label) (part : Rule)
  | field (name : String) (part : Rule)
deriving BEq, Inhabited

namespace Rule

/-- The part may be left out. -/
def optional (r : Rule) : Rule := .oneOf [r, .blank]

/-- The part any number of times, also none. -/
def many (r : Rule) : Rule := .oneOf [.repeated r, .blank]

/-- One or more parts with commas between them. -/
def commaSep1 (r : Rule) : Rule := .seq [r, .many (.seq [.text ",", r])]

/-- Any number of parts with commas between them. -/
def commaSep (r : Rule) : Rule := .optional (.commaSep1 r)

def strength (name : String) (r : Rule) : Rule := .binding (.named name) none r

def leftOf (name : String) (r : Rule) : Rule := .binding (.named name) (some .left) r

def rightOf (name : String) (r : Rule) : Rule := .binding (.named name) (some .right) r

def groupLeft (r : Rule) : Rule := .binding (.level 0) (some .left) r

def groupRight (r : Rule) : Rule := .binding (.level 0) (some .right) r

/-- Shown as a named node of the given kind. -/
def called (kind : String) (r : Rule) : Rule := .shownAs ⟨kind, true⟩ r

end Rule

/-- An entry of an ordering: a strength's name, or a rule whose phrases compare by it. -/
inductive Rank
  | strength (name : String)
  | rule (name : String)
deriving BEq, Inhabited

/-- A token that no rule spells out: found by looking at more than its own characters. -/
structure LayoutToken where
  name : String
  label : Option Label
deriving Inhabited

/-- A grammar: its rules in order, the start rule first.

`word` is the token that keywords are special cases of. `labels` renames what a symbol is shown as;
`hidden` rules show their parts in place of a node; `inlined` rules are expanded where they are
used; `extras` may stand anywhere. `layoutTokens` follow the other tokens, and `guarded` names the
tokens whose validity decides what a layout token may be. `orderings` list ranks from tightest to
loosest. -/
structure Ruleset where
  rules : List (String × Rule)
  word : String
  labels : List (String × Label)
  hidden : List String
  inlined : List String
  extras : List String
  layoutTokens : List LayoutToken
  guarded : List String
  orderings : List (List Rank)

end Flowchart.Grammar
