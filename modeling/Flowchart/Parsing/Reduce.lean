import Flowchart.Parsing.Progress

/-! Closing phrases: the parts on top of the stack become one phrase. Where readings had been joined,
the parts may be read in several ways, of which the best is kept. -/
namespace Flowchart.Parsing

open Flowchart.Grammar

/-- A phrase made of one way to read its parts, and the extras behind it. -/
structure Closed where
  phrase : Phrase
  extras : List Phrase

/-- The best phrase that can be made of several ways to read its parts. -/
private def closeBest (make : Nat → List Phrase → Phrase) (shape : Nat) :
    List (List Phrase) → Option Closed
  | [] => none
  | first :: others =>
    let close := fun way =>
      let (parts, extras) := Phrase.splitExtras way
      (⟨make shape parts, extras⟩ : Closed)
    some (others.foldl (fun best way =>
      let (parts, _) := Phrase.splitExtras way
      if best.phrase.yieldsTo (make 0 parts) then close way else best) (close first))

/-- Pushes phrases that leave the state as it is. -/
def pushAll (v state : Nat) : List Phrase → Parse Unit
  | [] => pure ()
  | p :: rest => do
    modify fun s => s.push v (some p) state
    pushAll v state rest

/-- Closes a phrase on one of the readings that going back has left, and joins the reading to an
earlier one where that is possible. Answers whether the reading is still there. -/
private def closeOn (l : Language) (source v : Nat) (r : Reduction) (ways : List (List Phrase)) :
    Parse Bool := do
  if v > versionLimit + versionSlack then
    modify (·.remove v)
    return false
  let here := (← get).placeOf v
  match closeBest (fun shape parts => .node l.table (.symbol r.symbol) shape false here parts)
      r.shape ways with
  | none => return true
  | some closed =>
    let next := l.next ((← get).stateOf v) r.symbol
    let phrase := { closed.phrase with weight := closed.phrase.weight + r.weight }
    modify fun s => s.push v (some phrase) next
    pushAll v next closed.extras
    let merged ← modifyGet (·.mergeIntoAny v ((List.range v).filter (· != source)))
    return !merged

/-- Closes a production on a reading. The results are new readings; the first one is answered. -/
def reduce (l : Language) (source : Nat) (r : Reduction) : Parse (Option Nat) := do
  let first ← versionCount
  let groups ← modifyGet (·.popCount source r.count)
  let mut v := first
  for ways in groups do
    if ← closeOn l source v r ways then v := v + 1
  return if v > first then some first else none

/-- Finishes a reading at the end of the text and keeps it if it is the best so far. -/
def accept (l : Language) (v : Nat) (lookahead : Phrase) : Parse Unit := do
  modify fun s => s.push v (some lookahead) 1
  let first ← versionCount
  let groups ← modifyGet (·.popAll v)
  for ways in groups do
    for way in ways do
      let back := way.reverse
      match back.dropWhile (·.extra) with
      | [] => pure ()
      | root :: before =>
        let parts := before.reverse ++ root.children ++ (back.takeWhile (·.extra)).reverse
        let tree : Phrase := .node l.table root.kind root.shape false root.start parts
        modifyThe Results fun r =>
          let better := match r.finished with
            | some old => old.yieldsTo tree
            | none => true
          { r with
            accepted := r.accepted + 1
            finished := if better then some tree else r.finished }
  modify (·.remove first)
  modify (·.halt v)

/-- The productions that may be closed in a state before one of some tokens, and whether one of the
tokens can be used there. -/
private def closable (l : Language) (state : Nat) (tokens : List Kind) : List Reduction × Bool :=
  tokens.foldl (fun acc token =>
    (l.actions state token).foldl (fun (found, usable) action =>
      match action with
      | .shift _ repeated => (found, usable || !repeated)
      | .recover => (found, true)
      | .reduce item =>
        let r := l.table.reductions[item]!
        if r.count > 0 && !found.any fun (x : Reduction) =>
            x.symbol == r.symbol && x.count == r.count then (found ++ [r], usable)
        else (found, usable)
      | _ => (found, usable)) acc) ([], false)

/-- Closes one production after the other on a reading; answers the last new reading. -/
private def reduceEach (l : Language) (v : Nat) : List Reduction → Option Nat → Parse (Option Nat)
  | [], last => return last
  | r :: rest, _ => do reduceEach l v rest (← reduce l v r)

/-- Closes everything that may be closed on the readings from `v` on, `origin` being the first of
them and `first` the number of readings before any was added. With a lookahead, only what may be
closed before it, and readings that cannot use it are given up. -/
private def reduceOn (l : Language) (origin first : Nat) (lookahead : Option Kind) :
    Nat → Nat → Nat → Bool → Parse Bool
  | 0, _, _, usable => return usable
  | fuel + 1, round, v, usable => do
    let count ← versionCount
    if v ≥ count then return usable
    if ← modifyGet (·.mergeIntoAny v (List.range' first (v - first))) then
      reduceOn l origin first lookahead fuel (round + 1) v usable
    else
      let tokens := match lookahead with
        | some kind => [kind]
        | none => (List.range' 1 (l.table.tokens - 1)).map .symbol
      let (reductions, usableHere) := closable l ((← get).stateOf v) tokens
      let reduced ← reduceEach l v reductions none
      match usableHere, reduced with
      | false, some w =>
        if round < versionLimit then
          modify (·.renumber w v)
          reduceOn l origin first lookahead fuel (round + 1) v usable
        else
          drop v
          step fuel round v count usable
      | false, none =>
        drop v
        step fuel round v count usable
      | true, _ => step fuel round v count true
where
  drop (v : Nat) : Parse Unit := if lookahead.isSome then modify (·.remove v) else pure ()
  step (fuel round v count : Nat) (usable : Bool) : Parse Bool :=
    reduceOn l origin first lookahead fuel (round + 1) (if v == origin then count else v + 1) usable

/-- Closes everything that may be closed on a reading. -/
def reduceAll (l : Language) (v : Nat) (lookahead : Option Kind) : Parse Bool := do
  reduceOn l v (← versionCount) lookahead 1000 0 v false

end Flowchart.Parsing
