import Flowchart.Parsing.Reduce

/-! Finding a way out of an error. A lost reading makes up one token, or goes back to an earlier
state that knows the next token, or steps over that token; what is thrown away becomes a fault. -/
namespace Flowchart.Parsing

open Flowchart.Grammar
open Flowchart.Lexical

/-- Takes a reading back by a number of phrases to a state. What is thrown away becomes a fault, with
a fault that stood before it. -/
private def returnTo (l : Language) (v depth state : Nat) : Parse Bool := do
  let first ← versionCount
  let groups ← modifyGet (·.popCount v depth)
  let mut returned := false
  for (ways, i) in groups.toList.zipIdx do
    let w := first + i
    if (← get).stateOf w == state then
      returned := true
      let fault ← modifyGet (·.popFault w)
      let lost := ((fault.map (·.children)).getD []) ++ (ways.head?).getD []
      let (parts, extras) := Phrase.splitExtras lost
      unless parts.isEmpty do
        let here := (← get).placeOf w
        modify fun s => s.push w (some (.node l.table .fault 0 true here parts)) state
      pushAll w state extras
    else modify (·.halt w)
  return returned

/-- Tries the states that a lost reading may return to, the nearest first. Readings before `count`
are not to be repeated. -/
private def seekRefuge (l : Language) (v count cost : Nat) (moved : Bool) (lookahead : Phrase) :
    List Refuge → Parse Bool
  | [] => return false
  | r :: rest => do
    let s ← get
    let here := s.placeOf v
    let known := (List.range count).any fun w =>
      s.stateOf w == r.state && (s.placeOf w).byte == here.byte
    if r.state == 0 || r.place.byte == here.byte || known then
      seekRefuge l v count cost moved lookahead rest
    else
      let cost' := cost + r.depth * penalties.skippedPhrase +
        (here.byte - r.place.byte) * penalties.skippedByte +
        (here.row - r.place.row) * penalties.skippedLine
      if ← outdone v cost' then return false
      let depth := if moved then r.depth + 1 else r.depth
      if !(l.actions r.state lookahead.kind).isEmpty then
        if ← returnTo l v depth r.state then return true
      seekRefuge l v count cost moved lookahead rest

/-- Removes the readings from `v` on that were given up. -/
private def sweep : Nat → Nat → Parse Unit
  | 0, _ => pure ()
  | fuel + 1, v => do
    let s ← get
    if v < s.versions.size then
      if s.isActive v then sweep fuel (v + 1)
      else
        modify (·.remove v)
        sweep fuel v

/-- Makes one fault of the text stepped over so far and the next token. -/
private def stepOver (l : Language) (v : Nat) (moved : Bool) (lookahead : Phrase) : Parse Unit := do
  let extra := (l.actions 1 lookahead.kind).getLast? == some .skip
  let token := if extra then { lookahead with extra := true } else lookahead
  let fresh : Phrase := .node l.table .skipping 0 false token.start [token]
  if moved then
    let first ← versionCount
    let groups ← modifyGet (·.popCount v 1)
    let before := ((groups[0]?).bind (·.head?)).getD []
    modify fun s => { s with versions := s.versions.extract 0 (first + 1) }
    modify (·.renumber first v)
    modify fun s =>
      s.push v (some (.node l.table .skipping 0 false token.start (before ++ [fresh]))) 0
  else
    modify fun s => s.push v (some fresh) 0

/-- What a lost reading does with the next token. -/
def recover (l : Language) (v : Nat) (lookahead : Phrase) : Parse Unit := do
  let count ← versionCount
  let refuges := ((← get).versions[v]!).refuges.getD []
  let progress ← modifyGet (·.progressSince v)
  let cost := (← get).costOf v
  let moved := progress > 0
  let returned ←
    if lookahead.isFault then pure false
    else seekRefuge l v count cost moved lookahead refuges
  sweep (2 * (← versionCount) + 2) count
  if returned && (← versionCount) > versionLimit then
    modify (·.halt v)
  else if lookahead.isEnd then
    let here := (← get).placeOf v
    modify fun s => s.push v (some (.node l.table .fault 0 false here [])) 1
    accept l v lookahead
  else
    let cost' := cost + penalties.skippedPhrase + lookahead.width * penalties.skippedByte +
      (lookahead.stop.row - lookahead.before.row) * penalties.skippedLine
    if ← outdone v cost' then modify (·.halt v)
    else stepOver l v moved lookahead

/-- Makes up a token that lets a reading use the lookahead, trying `symbol` and those after it. -/
private def makeUp (l : Language) (v : Nat) (lookahead : Phrase) : List Nat → Parse Bool
  | [] => return false
  | symbol :: rest => do
    let state := (← get).stateOf v
    let next := l.next state symbol
    let ends := match (l.actions next lookahead.kind).head? with
      | some (.reduce _) => true
      | _ => false
    if next == 0 || next == state || !ends then makeUp l v lookahead rest
    else
      let w ← versionCount
      modify (·.copy v)
      let here := (← get).placeOf w
      modify fun s => s.push w (some (.made l.table symbol here)) next
      if ← reduceAll l w (if lookahead.isEnd then none else some lookahead.kind) then return true
      makeUp l v lookahead rest

/-- Marks readings as lost, after one of them has made up a token if that helps. -/
private def loseAll (l : Language) (lookahead : Phrase) : Bool → List Nat → Parse Unit
  | _, [] => pure ()
  | made, v :: rest => do
    let made ←
      if made then pure true
      else makeUp l v lookahead (List.range' 1 (l.table.tokens - 1))
    modify fun s => s.push v none 0
    loseAll l lookahead made rest

/-- Joins the reading `w` to `v` a number of times; after each time another one stands there. -/
private def mergeNext (v w : Nat) : Nat → Parse Unit
  | 0 => pure ()
  | n + 1 => do
    let _ ← modifyGet (·.merge v w)
    mergeNext v w n

/-- A reading that cannot use a token loses its way there. -/
def lose (l : Language) (v : Nat) (lookahead : Phrase) : Parse Unit := do
  let first ← versionCount
  let _ ← reduceAll l v none
  let count ← versionCount
  loseAll l lookahead false (v :: List.range' first (count - first))
  mergeNext v first (count - first)
  modify (·.noteRefuges v)
  recover l v lookahead

/-- If all readings wait, the best of them loses its way; readings that wait behind another one are
given up. `n` counts the readings to look at from `v` on, `going` says that one before goes on. -/
def resumeBest (l : Language) : Nat → Nat → Bool → Option Nat → Parse (Option Nat)
  | 0, _, _, least => return least
  | n + 1, v, going, least => do
    match ((← get).versions[v]!).status with
    | .paused lookahead =>
      if !going && (← getThe Results).accepted < versionLimit then
        let cost := (← get).costOf v
        modify (·.resume v)
        lose l v lookahead
        resumeBest l n (v + 1) true (some cost)
      else
        modify (·.remove v)
        resumeBest l n v going least
    | _ => resumeBest l n (v + 1) true least

/-- Sorts out the readings after each has read on. The answer is the lowest cost among them. -/
def condense (l : Language) : Parse (Option Nat) := do
  let least ← weed (2 * (← versionCount) + 2) 0 none
  truncate
  resumeBest l (← versionCount) 0 false least

end Flowchart.Parsing
