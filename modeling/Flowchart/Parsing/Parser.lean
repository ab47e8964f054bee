import Flowchart.Parsing.Recovery

/-! Parsing a text. All readings that the table allows are followed side by side; what is kept is
the finished one with the lowest cost. -/
namespace Flowchart.Parsing

open Flowchart.Grammar
open Flowchart.Lexical

/-- The last token read, if the state that needs one would read the same. -/
private def reuse? (l : Language) (state : Nat) (here : Cursor) : Parse (Option Phrase) := do
  match (← getThe Results).recalled with
  | none => return none
  | some r =>
    let fits := r.token.before.byte == here.byte &&
      !(l.actions state r.token.kind).isEmpty && l.mode r.state == l.mode state &&
      (r.token.kind != .symbol l.word || (!r.token.keyword && r.state == state))
    return if fits then some r.token else none

/-- The next token of a reading. -/
private def lookahead (l : Language) (v : Nat) : Parse Phrase := do
  let state := (← get).stateOf v
  let here := (← get).placeOf v
  match ← reuse? l state here with
  | some token => return token
  | none =>
    let token := l.readToken state ((← get).hasAdvanced v) here
    modifyThe Results fun r => { r with recalled := some ⟨token, state⟩ }
    return token

/-- What became of a token: it was used, or productions were closed before it (the last new reading
is told), or nothing could be done. -/
private inductive Outcome
  | used
  | closed (v : Nat)
  | stuck

/-- Takes the actions for a token in order. -/
private def act (l : Language) (v : Nat) (token : Phrase) : List Action → Outcome → Parse Outcome
  | [], outcome => return outcome
  | .shift _ true :: rest, outcome => act l v token rest outcome
  | .shift next false :: _, _ => do
    modify fun s => s.push v (some { token with extra := false }) next
    return .used
  | .skip :: _, _ => do
    modify fun s => s.push v (some { token with extra := true }) (s.stateOf v)
    return .used
  | .reduce item :: rest, outcome => do
    match ← reduce l v l.table.reductions[item]! with
    | some w => act l v token rest (.closed w)
    | none => act l v token rest outcome
  | .accept :: _, _ => do
    accept l v token
    return .used
  | .recover :: _, _ => do
    recover l v token
    return .used

/-- Brings a reading to a token: closes what ends before it and takes it. A keyword that does not
fit is read as a plain word. -/
private def take (l : Language) (v : Nat) : Nat → Phrase → Parse Unit
  | 0, _ => modify (·.halt v)
  | fuel + 1, token => do
    let state := (← get).stateOf v
    match ← act l v token (l.actions state token.kind) .stuck with
    | .used => pure ()
    | .closed w =>
      modify (·.renumber w v)
      take l v fuel token
    | .stuck =>
      let word : Kind := .symbol l.word
      if token.keyword && token.kind != word && !(l.actions state word).isEmpty then
        take l v fuel { token with kind := word, visible := shows l.table word }
      else if state == 0 then recover l v token
      else modify (·.pause v token)

/-- Reads on with one reading until it is ahead of where the others are known to be. -/
private def readOn (l : Language) (v : Nat) : Nat → Nat → Parse Nat
  | 0, last => return last
  | fuel + 1, last => do
    if (← get).isActive v then
      let token ← lookahead l v
      take l v (1000 * ((← get).vertices.size + 1)) token
      let byte := ((← get).placeOf v).byte
      if byte > last || (v > 0 && byte == last) then return byte
      readOn l v fuel last
    else return last

/-- Reads on with each reading from `v` on. -/
private def readAll (l : Language) (rounds : Nat) : Nat → Nat → Nat → Parse Nat
  | 0, _, last => return last
  | fuel + 1, v, last => do
    if v < (← versionCount) then readAll l rounds fuel (v + 1) (← readOn l v rounds last)
    else return last

/-- Reads on in rounds until a finished reading is better than all others. -/
private def readText (l : Language) (limit : Nat) : Nat → Nat → Parse Unit
  | 0, _ => pure ()
  | fuel + 1, last => do
    let last ← readAll l limit limit 0 last
    let count ← versionCount
    let least ← condense l
    let done := match (← getThe Results).finished, least with
      | some p, some cost => p.cost < cost
      | some _, none => true
      | none, _ => false
    if done || count == 0 then pure () else readText l limit fuel last

/-- The best reading of a text. -/
def Language.read (l : Language) (text : List Char) : Option Phrase :=
  let limit := 1000 * (text.length + 1)
  let (_, results) := ((readText l limit limit 0).run (.start (.ofText text))).run ⟨none, none, 0⟩
  results.finished

end Flowchart.Parsing
