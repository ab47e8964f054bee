import Flowchart.Grammar.Vocabulary

/-! Merging states. Two states with the same items become one where that changes no decision: they
agree on every token that both know, and no token of one could be mistaken in the other. -/
namespace Flowchart.Grammar

/-- A state must not gain this token: it is a layout token, decides about one, or clashes with a
token that the state has. -/
def Vocabulary.unwelcome (v : Vocabulary) (tokens : TokenSet) (token : Nat) : Bool :=
  v.layout.contains token || v.guarded.contains token || (v.clashing[token]!).meets tokens

/-- Two states disagree about a token. Targets compare by their groups. -/
def Vocabulary.disagree (v : Vocabulary) (tokens : Array TokenSet) (states : Array State)
    (group : Array Nat) (a b : Nat) : Bool :=
  (List.range v.count).any fun token =>
    match (states[a]!).actions[token]!, (states[b]!).actions[token]! with
    | [], [] => false
    | [], _ => v.unwelcome tokens[a]! token
    | _, [] => v.unwelcome tokens[b]! token
    | as, bs => !same as bs
where
  same : List Action → List Action → Bool
    | [], [] => true
    | .shift s r :: as, .shift s' r' :: bs =>
      group[s]! == group[s']! && r == r' && same as bs
    | x :: as, y :: bs => x == y && same as bs
    | _, _ => false

/-- Two states lead to different groups by the same symbol. -/
def partWays (group : Array Nat) (a b : State) : Bool :=
  ((List.range a.actions.size).any fun token =>
    match (a.actions[token]!).getLast?, (b.actions[token]!).getLast? with
    | some (.shift s _), some (.shift s' _) => group[s]! != group[s']!
    | _, _ => false) ||
  (List.range a.goto.size).any fun r =>
    let s := a.goto[r]!
    let s' := b.goto[r]!
    s != 0 && s' != 0 && group[s]! != group[s']!

/-- The members of a group that some kept member before them cannot be merged with. -/
def outcasts (differ : Nat → Nat → Bool) : List Nat → List Nat
  | [] => []
  | first :: rest =>
    (rest.partition (differ first)).1 ++ outcasts differ (rest.partition (differ first)).2
termination_by l => l.length
decreasing_by
  simp only [List.partition_eq_filter_filter, List.length_cons]
  exact Nat.lt_succ_of_le (List.length_filter_le _ rest)

structure Groups where
  members : Array (List Nat)
  of : Array Nat
  changed : Bool
deriving Inhabited

/-- Splits groups, and the groups split off, until every two members of a group agree. -/
def Groups.split (g : Groups) (limit : Nat) (differ : Array Nat → Nat → Nat → Bool) : Groups :=
  Id.run do
    let mut g := { g with changed := false }
    for i in [0 : limit] do
      if i ≥ g.members.size then break
      let out := outcasts (differ g.of) g.members[i]!
      unless out.isEmpty do
        let n := g.members.size
        let kept := (g.members[i]!).filter fun s => !out.contains s
        g := { members := (g.members.set! i kept).push out
               of := out.foldl (fun of s => of.set! s n) g.of
               changed := true }
    return g

def Vocabulary.groups (v : Vocabulary) (states : Array State) : Groups := Id.run do
  let cores := states.foldl (fun m s => max m (s.core + 1)) 0
  let of := states.map (·.core)
  let members := (List.range states.size).foldl (fun (acc : Array (List Nat)) s =>
    acc.modify of[s]! (s :: ·)) (Array.replicate cores [])
  let start : Groups := ⟨members.map List.reverse, of, false⟩
  let tokens := states.map State.tokens
  let mut g := start.split (2 * states.size) (v.disagree tokens states)
  for _ in [0 : states.size] do
    g := g.split (2 * states.size) fun of a b => partWays of states[a]! states[b]!
    unless g.changed do break
  return g

/-- Moves the states a state refers to. -/
def State.redirect (f : Nat → Nat) (s : State) : State :=
  let move : Action → Action
    | .shift t r => .shift (f t) r
    | action => action
  { s with
    actions := s.actions.map (·.map move)
    goto := s.goto.map fun t => if t == 0 then 0 else f t }

/-- Puts the states into a new order: `order` lists the old numbers of the states to keep. -/
def reorder (states : Array State) (order : Array Nat) : Array State :=
  let place := order.toList.zipIdx.foldl (fun (acc : Array Nat) (old, new) => acc.set! old new)
    (Array.replicate states.size 0)
  order.map fun old => (states[old]!).redirect fun t => place[t]!

/-- One state for each group, with the error state and the start state first. -/
def Groups.merge (g : Groups) (states : Array State) : Array State :=
  let mergeOne := fun (members : List Nat) =>
    match members with
    | [] => default
    | s :: rest =>
      rest.foldl (fun (acc : State) (s : Nat) =>
        let other : State := states[s]!
        { acc with
          actions := acc.actions.zipWith (fun (x y : List Action) => if x.isEmpty then y else x) other.actions
          goto := acc.goto.zipWith (fun x y => if x == 0 then y else x) other.goto })
        states[s]!
  let merged := (g.members.map mergeOne).map (·.redirect fun t => g.of[t]!)
  let swap := fun (a b : Nat) (order : Array Nat) =>
    let x := order[a]!
    let y := order[b]!
    (order.set! a y).set! b x
  let order := swap 0 g.of[0]! (Array.range merged.size)
  let at1 := (order.findIdx? (· == g.of[1]!)).getD 1
  reorder merged (swap 1 at1 order)

/-! ### Unit reductions -/

/-- The rule that a state reduces a single part to, whatever follows, where nobody can tell. -/
def Context.unitRule (c : Context) (aliased : List Nat) (s : State) : Option Nat := Id.run do
  let ps := c.items.productions
  let mut found : Option Nat := none
  for actions in s.actions do
    for action in actions do
      match action with
      | .skip => pure ()
      | .reduce i =>
        let r := (c.items.items[i]!).reduction
        let info := ps.symbols[r.symbol]!
        let plain := r.count == 1 && r.shape == 0 && r.weight == 0 && info.label.isNone &&
          !c.grammar.hidden.contains info.name && !aliased.contains r.symbol
        if plain && (found.isNone || found == some r.symbol) then found := some r.symbol
        else return none
      | _ => return none
  return found.map (· - ps.tokens)

/-- Leads past the states that only reduce a single part. -/
def Context.skipUnits (c : Context) (states : Array State) : Array State :=
  let ps := c.items.productions
  let aliased := (ps.productions.toList.flatMap fun p => p.steps.toList.filterMap fun s =>
    if s.label.isSome then some s.symbol else none).eraseDups
  let units := states.map (c.unitRule aliased)
  states.map fun s =>
    let follow := fun t =>
      match units[t]! with
      | some r => if s.goto[r]! == 0 then t else s.goto[r]!
      | none => t
    (List.range 8).foldl (fun s _ => s.redirect follow) s

/-- Keeps the states that some state refers to. -/
def dropUnused (states : Array State) : Array State :=
  let used := states.foldl (fun (acc : Array Bool) s =>
    let acc := s.actions.foldl (fun acc actions => actions.foldl (fun (acc : Array Bool) action =>
      match action with
      | .shift t _ => acc.set! t true
      | _ => acc) acc) acc
    s.goto.foldl (fun (acc : Array Bool) t => acc.set! t true) acc)
    (Array.replicate states.size false)
  reorder states ((Array.range states.size).filter fun s => s ≤ 1 || used[s]!)

/-- The number of symbols that a state knows. -/
def State.width (s : State) : Nat :=
  s.actions.countP (!·.isEmpty) + s.goto.countP (· != 0)

/-- The larger states first, behind the error state and the start state. -/
def sortBySize (states : Array State) : Array State :=
  let rest := (List.range' 2 (states.size - 2)).mergeSort fun a b =>
    (states[a]!).width ≥ (states[b]!).width
  reorder states (#[0, 1] ++ rest.toArray)

end Flowchart.Grammar
