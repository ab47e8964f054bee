import Flowchart.Lexical.Pattern

/-! Reading one token from a text: the longest that the patterns allow. -/
namespace Flowchart.Lexical

/-- A place in a text: what follows it, and its byte offset, line and byte column. -/
structure Cursor where
  rest : List Char
  byte : Nat
  row : Nat
  column : Nat
deriving Inhabited

namespace Cursor

def ofText (text : List Char) : Cursor := ⟨text, 0, 0, 0⟩

def atEnd (c : Cursor) : Bool := c.rest.isEmpty

/-- The place behind the next character. -/
def next (c : Cursor) : Cursor :=
  match c.rest with
  | [] => c
  | '\n' :: rest => ⟨rest, c.byte + 1, c.row + 1, 0⟩
  | x :: rest => ⟨rest, c.byte + x.utf8Size, c.row, c.column + x.utf8Size⟩

end Cursor

/-- A token with one of the patterns that may still be left of it. -/
structure Thread where
  token : Nat
  left : Pattern

/-- A token that ends at a place. -/
structure Ending where
  token : Nat
  place : Cursor

/-- What reading came to: where the token starts, the longest token found, and where no pattern
went on. -/
structure Scanned where
  start : Cursor
  found : Option Ending
  stop : Cursor

/-- The tokens to look for: their spellings, and whether the end of the text is one. -/
structure Sought where
  tokens : Array (Nat × Spelling)
  atEnd : Option Nat
deriving Inhabited

namespace Lexicon

private def rankOf (lx : Lexicon) (token : Nat) : Int :=
  match lx.spellings[token]! with
  | some s => s.rank
  | none => 0

/-- The token that is meant where several may end. -/
def ended (lx : Lexicon) (threads : List Thread) : Option Nat :=
  threads.foldl (fun best t =>
    if t.left.nullable then
      match best with
      | none => some t.token
      | some b => if b == t.token || lx.prefers b t.token then some b else some t.token
    else best) none

private def addThread (threads : List Thread) (token : Nat) (left : Pattern) : List Thread :=
  if threads.any fun t => t.token == token && t.left == left then threads
  else ⟨token, left⟩ :: threads

/-- Reads on as long as a pattern allows. `gap` holds while nothing but blanks has been read. -/
def run (lx : Lexicon) (sought : Sought) (gap : Bool) (start : Cursor) (found : Option Ending)
    (threads : List Thread) : List Char → Cursor → Scanned
  | [], here =>
    -- The end of the text is a token where nothing but blanks was read.
    match start.byte == here.byte, sought.atEnd with
    | true, some t => ⟨here, some ⟨t, here⟩, here⟩
    | _, _ => ⟨start, found, here⟩
  | x :: rest, here =>
    let c := x.toNat
    let begun := if gap then
        sought.tokens.foldl (fun acc (token, s) =>
          if s.immediate then acc
          else (s.pattern.after c).foldl (fun acc p => ⟨token, p⟩ :: acc) acc) []
      else []
    let threads' := threads.foldl (fun acc t =>
      (t.left.after c).foldl (fun acc p => addThread acc t.token p) acc) begun
    let gap' := gap && lx.blanks.mem c
    if threads'.isEmpty && !gap' then ⟨start, found, here⟩
    else
      let blank := gap' && threads'.isEmpty
      let rank := threads'.foldl (fun m t => max m (lx.rankOf t.token))
        (if gap' then 0 else -1000)
      let proceed := match ended lx threads with
        | none => true
        | some k =>
          goesOn rank (lx.rankOf k) blank gap (threads'.any (·.token == k))
      if proceed then
        let there := here.next
        let start := if blank then there else start
        let found := match ended lx threads' with
          | some k => some ⟨k, there⟩
          | none => found
        run lx sought gap' start found threads' rest there
      else ⟨start, found, here⟩

/-- The longest of the sought tokens that starts at a place, after blanks. -/
def scan (lx : Lexicon) (sought : Sought) (here : Cursor) : Scanned :=
  let threads := sought.tokens.toList.filterMap fun (token, s) =>
    if s.immediate then some ⟨token, s.pattern⟩ else none
  lx.run sought true here none threads here.rest here

end Lexicon

end Flowchart.Lexical
