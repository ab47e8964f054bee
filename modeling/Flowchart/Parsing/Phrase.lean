import Flowchart.Grammar.Table

/-! Phrases: what a parser has read so far. Each phrase keeps the sums over its parts that tell how
good a reading it is, so that no reading has to be looked through twice. -/
namespace Flowchart.Parsing

open Flowchart.Grammar
open Flowchart.Lexical

/-- What a phrase is: a symbol of the grammar, text that a lost parser is stepping over, or a
closed stretch of such text. -/
inductive Kind
  | symbol (n : Nat)
  | skipping
  | fault
deriving BEq, Inhabited

/-- What a fault in a reading costs. The reading with the lowest cost is kept. -/
structure Penalties where
  recovery : Nat
  missing : Nat
  skippedPhrase : Nat
  skippedByte : Nat
  skippedLine : Nat

/-- To lose the way weighs most, then to make up a token, then to throw a phrase away. -/
def penalties : Penalties := ⟨500, 110, 100, 1, 30⟩

/-- A phrase and its place in the text: `before` is where the blanks in front of it begin.

`cost` sums the penalties inside, `weight` the preferences of the productions, `shown` counts the
nodes that stand directly below, `inner` all nodes below, and `size` the phrases. -/
structure Phrase where
  kind : Kind
  shape : Nat
  before : Cursor
  start : Cursor
  stop : Cursor
  visible : Bool
  extra : Bool
  missing : Bool
  keyword : Bool
  cost : Nat
  weight : Int
  shown : Nat
  inner : Nat
  size : Nat
  children : List Phrase
deriving Inhabited

namespace Phrase

/-- Bytes with the blanks in front. -/
def width (p : Phrase) : Nat := p.stop.byte - p.before.byte

def isFault (p : Phrase) : Bool := p.kind == .fault

def isEnd (p : Phrase) : Bool := p.kind == .symbol 0

/-- How many nodes a phrase adds to a reading. Text that is being stepped over counts, so that
stepping on is seen as progress. -/
def progress (p : Phrase) : Nat :=
  p.inner + (if p.visible then 1 else 0) + if p.kind == .skipping then 1 else 0

end Phrase

/-- A phrase of this kind is a node of the tree. -/
def shows (t : Table) : Kind → Bool
  | .symbol n => (t.symbols[n]!).label.isSome
  | .skipping => false
  | .fault => true

namespace Phrase

/-- A token. The end of the text stands outside of all productions. -/
def token (t : Table) (kind : Kind) (keyword : Bool) (before start stop : Cursor) : Phrase :=
  { kind, shape := 0, before, start, stop, visible := shows t kind, extra := kind == .symbol 0
    missing := false, keyword, cost := 0, weight := 0, shown := 0, inner := 0, size := 1
    children := [] }

/-- A token that the text lacks, made up where it should stand. -/
def made (t : Table) (symbol : Nat) (here : Cursor) : Phrase :=
  { token t (.symbol symbol) false here here here with
    extra := false, missing := true, cost := penalties.missing + penalties.recovery }

/-- The sums over children read so far; `index` counts those that are not extras. -/
structure Sums where
  index : Nat
  cost : Nat
  weight : Int
  shown : Nat
  inner : Nat
  size : Nat

/-- What a child adds to the cost of text that is thrown away. -/
private def lostCost (child : Phrase) : Nat :=
  if child.extra || (child.isFault && child.children.isEmpty) then 0
  else if child.visible then penalties.skippedPhrase
  else if child.children.isEmpty then 0
  else penalties.skippedPhrase * child.shown

private def addChild (lost : Bool) (labels : List (Option Label)) (s : Sums) (child : Phrase) :
    Sums :=
  let named := !child.extra && ((labels[s.index]?).getD none).isSome
  let node := named || child.visible
  { index := if child.extra then s.index else s.index + 1
    cost := s.cost + (if child.kind == .skipping then 0 else child.cost) +
      if lost then lostCost child else 0
    weight := s.weight + child.weight
    shown := s.shown + if node then 1 else if child.children.isEmpty then 0 else child.shown
    inner := s.inner + child.inner + if node then 1 else 0
    size := s.size + child.size }

/-- A phrase made of children; `here` is its place if it has none. -/
def node (t : Table) (kind : Kind) (shape : Nat) (extra : Bool) (here : Cursor)
    (children : List Phrase) : Phrase :=
  let lost := kind == .fault || kind == .skipping
  let labels := if lost then [] else (t.shapes[shape]!).labels
  let sums := children.foldl (addChild lost labels) ⟨0, 0, 0, 0, 0, 1⟩
  let before := ((children.head?).map (·.before)).getD here
  let start := ((children.head?).map (·.start)).getD here
  let stop := ((children.getLast?).map (·.stop)).getD here
  let own :=
    if lost then
      penalties.recovery + penalties.skippedByte * (stop.byte - start.byte) +
        penalties.skippedLine * (stop.row - start.row)
    else 0
  { kind, shape, before, start, stop, visible := shows t kind, extra, missing := false
    keyword := false, cost := sums.cost + own, weight := sums.weight, shown := sums.shown
    inner := sums.inner, size := sums.size, children }

private def rank : Kind → Nat
  | .symbol n => n
  | .skipping => 65534
  | .fault => 65535

/-- Compares pairs of phrases in document order, symbol by symbol. -/
private def compareAll : Nat → List (Phrase × Phrase) → Ordering
  | 0, _ => .eq
  | _, [] => .eq
  | fuel + 1, (a, b) :: rest =>
    match compare (rank a.kind) (rank b.kind),
        compare a.children.length b.children.length with
    | .eq, .eq => compareAll fuel (a.children.zip b.children ++ rest)
    | .eq, byLength => byLength
    | byRank, _ => byRank

/-- Of two readings of one text the second is kept: it costs less, or weighs more, or what it names
comes first. -/
def yieldsTo (left right : Phrase) : Bool :=
  if right.cost != left.cost then right.cost < left.cost
  else if right.weight != left.weight then right.weight > left.weight
  else if left.cost > 0 then true
  else compareAll left.size [(left, right)] == .gt

/-- Splits off the extras at the end. -/
def splitExtras (phrases : List Phrase) : List Phrase × List Phrase :=
  let back := phrases.reverse
  ((back.dropWhile (·.extra)).reverse, (back.takeWhile (·.extra)).reverse)

/-- Two phrases that end at one place read the same text in the same way, as far as a parser that
goes on can tell. -/
def sameReading (a b : Phrase) : Bool :=
  a.kind == b.kind && ((a.cost > 0 && b.cost > 0) ||
    (a.start.byte - a.before.byte == b.start.byte - b.before.byte &&
      a.stop.byte - a.start.byte == b.stop.byte - b.start.byte &&
      a.children.length == b.children.length && a.extra == b.extra))

end Phrase

end Flowchart.Parsing
