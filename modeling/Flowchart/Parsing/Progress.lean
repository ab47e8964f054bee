import Flowchart.Parsing.Language
import Flowchart.Parsing.Stack

/-! Comparing readings: which of two is worth keeping, and which are given up. -/
namespace Flowchart.Parsing

open Flowchart.Grammar

/-- At most so many readings are kept. -/
def versionLimit : Nat := 6

/-- So many more may arise while a token is read. -/
def versionSlack : Nat := 4

/-- How far readings may be apart before the worse one is given up. -/
def patience : Nat := 16 * penalties.skippedPhrase

/-- A token that was read last, and the state that it was read in. -/
structure Recalled where
  token : Phrase
  state : Nat

/-- What is known beside the stack: the last token, the best finished reading, and how many were
finished. -/
structure Results where
  recalled : Option Recalled
  finished : Option Phrase
  accepted : Nat

/-- A step of a parser: it works on the stack, and its results grow. -/
abbrev Parse (α : Type) := StateT Stack (StateM Results) α

/-- How a reading is doing. -/
structure Standing where
  cost : Nat
  progress : Nat
  weight : Int
  lost : Bool

/-- Of two readings one is much better, or better, or there is nothing to choose. -/
inductive Preference
  | onlyLeft
  | left
  | either
  | right
  | onlyRight
deriving BEq

/-- A reading that is not lost is better. Costs count the more, the more has been read since. -/
def Standing.compare (a b : Standing) : Preference :=
  if !a.lost && b.lost then if a.cost < b.cost then .onlyLeft else .left
  else if a.lost && !b.lost then if b.cost < a.cost then .onlyRight else .right
  else if a.cost < b.cost then
    if (b.cost - a.cost) * (1 + a.progress) > patience then .onlyLeft else .left
  else if b.cost < a.cost then
    if (a.cost - b.cost) * (1 + b.progress) > patience then .onlyRight else .right
  else if a.weight > b.weight then .left
  else if b.weight > a.weight then .right
  else .either

def standing (v : Nat) : Parse Standing := do
  let progress ← modifyGet (·.progressSince v)
  let s ← get
  let paused := (s.versions[v]!).status.isPaused
  return { cost := s.costOf v + if paused then penalties.skippedPhrase else 0
           progress
           weight := (s.top v).weight
           lost := paused || s.stateOf v == 0 }

def versionCount : Parse Nat := return (← get).versions.size

/-- Some other reading is better than `v` would be at a cost. -/
def outdone (v : Nat) (cost : Nat) : Parse Bool := do
  match (← getThe Results).finished with
  | some p => if p.cost ≤ cost then return true
  | none => pure ()
  let progress ← modifyGet (·.progressSince v)
  let own : Standing := ⟨cost, progress, ((← get).top v).weight, false⟩
  let byte := ((← get).placeOf v).byte
  for w in [0 : ← versionCount] do
    let s ← get
    if w != v && s.isActive w && (s.placeOf w).byte ≥ byte then
      match own.compare (← standing w) with
      | .onlyRight => return true
      | .right => if s.canMerge w v then return true
      | _ => pure ()
  return false

/-- Compares the reading `v` with those before it, from `w` on. `own` is how it did at first. The
answer says how many readings up to `v` are left, and whether `v` is among them. -/
def settle (own : Standing) : Nat → Nat → Nat → Parse Nat
  | 0, v, _ => return v + 1
  | fuel + 1, v, w => do
    if w ≥ v then return v + 1
    match (← standing w).compare own with
    | .onlyLeft =>
      modify (·.remove v)
      return v
    | .onlyRight =>
      modify (·.remove w)
      settle own fuel (v - 1) w
    | preference =>
      if ← modifyGet (·.merge w v) then return v
      if preference == .right then modify (·.swap v w)
      settle own fuel v (w + 1)

/-- Gives up readings that are clearly worse than another, joins those that can be joined, and puts
the better ones first, from reading `v` on. The answer is the lowest cost of those that are not
lost. -/
def weed : Nat → Nat → Option Nat → Parse (Option Nat)
  | 0, _, least => return least
  | fuel + 1, v, least => do
    if v ≥ (← versionCount) then return least
    if ((← get).versions[v]!).status.isHalted then
      modify (·.remove v)
      weed fuel v least
    else
      let own ← standing v
      let least := if own.lost then least else some (min own.cost (least.getD own.cost))
      weed fuel (← settle own (2 * v + 2) v 0) least

/-- Keeps the first readings only. -/
def truncate : Parse Unit :=
  modify fun s => { s with versions := s.versions.extract 0 versionLimit }

end Flowchart.Parsing
