import Flowchart.Grammar.Automaton
import Flowchart.Lexical.Confusion

/-! What the states of a parser make of its tokens: which tokens are looked for together, which are
keywords, which may be told apart while the parser is lost. -/
namespace Flowchart.Grammar

open Flowchart.Lexical

/-- The tokens that may end each symbol. -/
def Productions.lastSets (ps : Productions) : Array TokenSet :=
  let start := (Array.range ps.symbols.size).map fun n =>
    if n < ps.tokens then TokenSet.singleton n else .empty
  let step := fun (sets : Array TokenSet) =>
    ps.productions.foldl (fun acc p =>
      match p.steps.back? with
      | none => acc
      | some s => acc.modify (ps.tokens + p.rule) (·.union acc[s.symbol]!)) sets
  (List.range 32).foldl (fun acc _ => step acc) start

/-- For each token the tokens that may come right after it. An extra may come anywhere. -/
def Items.following (g : Items) (extras : TokenSet) : Array TokenSet := Id.run do
  let ps := g.productions
  let last := ps.lastSets
  let mut after : Array TokenSet := Array.replicate ps.tokens extras
  for p in ps.productions do
    for (s, t) in p.steps.zip (p.steps.extract 1 p.steps.size) do
      for token in (last[s.symbol]!).toList ps.tokens do
        after := after.modify token (·.union g.first[t.symbol]!)
  for token in [0 : ps.tokens] do
    if extras.contains token then
      after := after.set! token (.ofPred ps.tokens fun _ => true)
  return after

/-- The tokens of a parser and how they stand to each other.

`beside` gives for each token those that some state looks for together with it, `apart` those that
it may be taken for; `blocked` those that keep it from being looked for where it is not needed. -/
structure Vocabulary where
  count : Nat
  layout : TokenSet
  guarded : TokenSet
  extras : TokenSet
  keywords : TokenSet
  sought : TokenSet
  beside : Array TokenSet
  clashing : Array TokenSet
  blocked : Array TokenSet
deriving Inhabited

def State.tokens (s : State) : TokenSet :=
  .ofPred s.actions.size fun t => !(s.actions[t]!).isEmpty

private def coincidences (count : Nat) (sets : Array TokenSet) : Array TokenSet :=
  (Array.range count).map fun t =>
    sets.foldl (fun acc s => if s.contains t then acc.union s else acc) .empty

def Context.vocabulary (c : Context) (lx : Lexicon) (states : Array State) : Vocabulary :=
  let ps := c.items.productions
  let n := ps.tokens
  let name := fun t => (ps.symbols[t]!).name
  let all := (List.range n)
  let layout := TokenSet.ofPred n fun t => c.grammar.layoutTokens.any (·.name == name t)
  let extras := TokenSet.ofPred n fun t => c.grammar.extras.contains (name t)
  let spelled := fun t => (lx.spellings[t]!).isSome
  let confusions := lx.confusions
    ((c.items.following extras).map fun s => (s.toList n).filter spelled)
  let beside := fun a b => confusions[a * n + b]!
  let sets := states.map fun s => s.tokens.union extras
  let together := coincidences n sets
  let togetherWithoutWord := coincidences n (sets.filter fun s => !s.contains 1)
  -- A keyword reads one text, which the word token reads too.
  let candidates := all.filter fun t =>
    spelled t && t != 1 && (beside t 1).sameText && !(beside t 1).differs
  let unshadowed := candidates.filter fun t =>
    candidates.all fun u => u == t || !(beside u t).sameText
  -- Looking for the word token in its place must not bring in new confusions.
  let keywords := TokenSet.ofPred n fun t => unshadowed.contains t && all.all fun u =>
    !spelled u || candidates.contains u || !(togetherWithoutWord[t]!).contains u ||
      (beside 1 u).clashes == (beside t u).clashes
  let free := all.filter fun t => spelled t && all.all fun u =>
    u == t || !spelled u || (together[t]!).contains u ||
      !(((beside t u).goesOnValidly || (beside t u).insideGap) && !(beside u t).insideGap)
  let sought := TokenSet.ofPred n fun t => spelled t &&
    (free.contains t || keywords.contains t || t == 1 ||
      free.all fun u => (together[t]!).contains u || !(beside t u).clashes)
  let clashing := (Array.range n).map fun t => TokenSet.ofPred n fun u =>
    spelled t && spelled u && t != u &&
    !(t == 1 && keywords.contains u) && !(u == 1 && keywords.contains t) &&
    (beside t u).clashes
  let blocked := (Array.range n).map fun t => TokenSet.ofPred n fun u =>
    spelled t && spelled u && t != u &&
    ((beside t u).clashes || (beside t u).cutShort ||
      (!(together[t]!).contains u && ((beside u t).overlaps || (beside t u).overlaps)))
  { count := n, layout, extras, keywords, sought, beside := together, clashing, blocked
    guarded := .ofPred n fun t => c.grammar.guarded.contains (name t) }

end Flowchart.Grammar
