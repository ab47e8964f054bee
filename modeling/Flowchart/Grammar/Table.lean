import Flowchart.Grammar.Compaction
import Flowchart.Lexical.Scan

/-! The table of a parser: what to do in each state with each token, and which tokens to look for
there. -/
namespace Flowchart.Grammar

open Flowchart.Lexical

/-- Fills the error state with the tokens that a lost parser looks for, and lets extras stand in
every state. -/
def Vocabulary.complete (v : Vocabulary) (states : Array State) : Array State :=
  states.mapIdx fun i s =>
    { s with actions := s.actions.mapIdx fun t actions =>
        if !actions.isEmpty then actions
        else if v.extras.contains t then [.skip]
        else if i == 0 && (t == 0 || v.layout.contains t || v.sought.contains t) then [.recover]
        else [] }

/-- The tokens to look for in each state. States share a set where no token of one is in the way of
a token of the other; the word token stands for its keywords. -/
def Vocabulary.searches (v : Vocabulary) (states : Array State) : Array TokenSet × Array Nat :=
  let spelled := fun (s : State) =>
    let own := s.tokens.diff v.layout
    if own.meets v.keywords then (own.diff v.keywords).insert 1 else own
  let fits := fun (a b : TokenSet) =>
    ((a.diff b).toList v.count).all (fun t => !(v.blocked[t]!).meets b) &&
      ((b.diff a).toList v.count).all (fun t => !(v.blocked[t]!).meets a)
  states.foldl (fun (sets, of) s =>
    let own := spelled s
    match sets.findIdx? (fits · own) with
    | some i => (sets.modify i (·.union own), of.push i)
    | none => (sets.push own, of.push sets.size)) (#[], #[])

/-- A parser's table. `search` numbers the set of tokens to look for in each state. -/
structure Table where
  tokens : Nat
  symbols : Array SymbolInfo
  states : Array State
  reductions : Array Reduction
  shapes : Array Shape
  vocabulary : Vocabulary
  searches : Array Sought
  searchOf : Array Nat
deriving Inhabited

def Ruleset.table (g : Ruleset) (lx : Lexicon) : Table :=
  let items := g.productions.items
  let c : Context := ⟨g, items⟩
  let states := c.states 100000
  let v := c.vocabulary lx states
  let states := v.complete states
  let merged := ((v.groups states).merge states)
  let states := sortBySize (dropUnused (c.skipUnits merged))
  let (sets, searchOf) := v.searches states
  let sought := fun (s : TokenSet) =>
    { tokens := ((s.toList v.count).filterMap fun t => (lx.spellings[t]!).map fun p => (t, p)).toArray
      atEnd := if s.contains 0 then some 0 else none : Sought }
  { tokens := items.productions.tokens
    symbols := items.productions.symbols
    states
    reductions := items.items.map (·.reduction)
    shapes := items.shapes
    vocabulary := v
    searches := sets.map sought
    searchOf }

end Flowchart.Grammar
