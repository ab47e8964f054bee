import Flowchart.Parsing.Phrase

/-! A language for a parser, and reading one token of it. Where a state knows no token that fits,
any token is taken; where there is none at all, text is stepped over up to the next one. -/
namespace Flowchart.Parsing

open Flowchart.Grammar
open Flowchart.Lexical

/-- A layout token and its place. -/
structure LayoutMark where
  token : Nat
  start : Cursor
  stop : Cursor

/-- What a parser needs to know: its table, how tokens are spelled, the token that keywords are
special cases of, the keywords by their text, and how to find layout tokens among those that are
valid. -/
structure Language where
  table : Table
  lexicon : Lexicon
  word : Nat
  keywords : Std.HashMap String Nat
  layout : (Nat → Bool) → Cursor → Option LayoutMark

/-- What a state does with a token or a faulty phrase. -/
def Language.actions (l : Language) (state : Nat) : Kind → List Action
  | .symbol n => ((l.table.states[state]!).actions[n]?).getD []
  | _ => []

/-- The state behind a symbol, 0 if there is none. An extra leaves the state as it is. -/
def Language.next (l : Language) (state symbol : Nat) : Nat :=
  if symbol < l.table.tokens then
    match (l.actions state (.symbol symbol)).getLast? with
    | some (.shift next _) => next
    | some .skip => state
    | _ => 0
  else (l.table.states[state]!).goto[symbol - l.table.tokens]!

namespace Language

/-- What decides about the tokens looked for in a state. -/
def mode (l : Language) (state : Nat) : Nat × TokenSet :=
  let v := l.table.vocabulary
  let special := v.layout.union v.guarded
  let valid := fun t => special.contains t && (state == 0 || !(l.actions state (.symbol t)).isEmpty)
  (l.table.searchOf[state]!, .ofPred v.count valid)

private def scanIn (l : Language) (state : Nat) (here : Cursor) : Scanned :=
  l.lexicon.scan l.table.searches[l.table.searchOf[state]!]! here

/-- A byte order mark at the start of a text is a blank. -/
private def pastMark (here : Cursor) : Cursor :=
  if here.byte == 0 && here.rest.head? == some '\uFEFF' then here.next else here

/-- The layout token at a place. An empty one counts only if the parser gets on by it. -/
private def layoutAt (l : Language) (state : Nat) (advanced : Bool) (here : Cursor) :
    Option LayoutMark :=
  let valid := fun t => !(l.actions state (.symbol t)).isEmpty
  match l.layout valid (pastMark here) with
  | some mark =>
    if mark.stop.byte ≤ here.byte && (!advanced || l.next state mark.token == state) then none
    else some mark
  | none => none

/-- The text between two places. -/
private def textTo (stop : Cursor) : List Char → Nat → List Char
  | [], _ => []
  | c :: rest, byte => if byte < stop.byte then c :: textTo stop rest (byte + c.utf8Size) else []

/-- The phrase for a token that was found. A keyword is meant where the state knows it. -/
private def leaf (l : Language) (state : Nat) (before start : Cursor) (found : Ending) : Phrase :=
  let stop := found.place
  if found.token == l.word then
    match l.keywords[String.ofList (textTo stop start.rest start.byte)]? with
    | some k =>
      if (l.actions state (.symbol k)).isEmpty then
        .token l.table (.symbol l.word) true before start stop
      else .token l.table (.symbol k) true before start stop
    | none => .token l.table (.symbol l.word) false before start stop
  else .token l.table (.symbol found.token) false before start stop

/-- Steps over text until a token begins. `stop` is how far the text is given up, `reached` how far
the last attempt to read a token came. -/
private def stepOver (l : Language) (before start : Cursor) : Nat → Cursor → Cursor → Phrase
  | 0, stop, _ => .token l.table .fault false before start stop
  | fuel + 1, stop, reached =>
    if reached.byte == stop.byte && reached.atEnd then
      .token l.table .fault false before start stop
    else
      let stop := if reached.byte == stop.byte then reached.next else reached
      let again := l.scanIn 0 stop
      if again.found.isSome then .token l.table .fault false before start stop
      else stepOver l before start fuel stop again.stop

/-- Reads the token behind a place. `advanced` says that the parser got on since its last error. -/
def readToken (l : Language) (state : Nat) (advanced : Bool) (here : Cursor) : Phrase :=
  let layout := if state == 0 then none else l.layoutAt state advanced here
  match layout with
  | some mark => .token l.table (.symbol mark.token) false here mark.start mark.stop
  | none =>
    let own := l.scanIn state (pastMark here)
    match own.found with
    | some found => l.leaf state here own.start found
    | none =>
      let any := l.scanIn 0 (pastMark here)
      match any.found with
      | some found => l.leaf state here any.start found
      | none => l.stepOver here any.start (here.rest.length + 1) any.start any.stop

end Language

end Flowchart.Parsing
