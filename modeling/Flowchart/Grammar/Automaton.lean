import Flowchart.Grammar.Closure

/-! The states of a parser: sets of items with the tokens that may follow them, and what to do in
a state with each token. -/
namespace Flowchart.Grammar

/-- What a parser may do with a token: move on to a state (`repeated` marks the choice between two
ways to pair up a repetition, of which a parser takes the other), step over it, close a production
(named by its finished item), finish, or start to look for a way out of an error. -/
inductive Action
  | shift (state : Nat) (repeated : Bool)
  | skip
  | reduce (item : Nat)
  | accept
  | recover
deriving BEq, Inhabited

/-- A state: the actions for each token, the state behind each rule (0 for none), and a number that
states share when they hold the same items. -/
structure State where
  actions : Array (List Action)
  goto : Array Nat
  core : Nat
deriving Inhabited

structure Building where
  kernels : Array (Array (Nat × Nat))
  byKernel : Std.HashMap (Array (Nat × Nat)) Nat
  lookaheads : Array TokenSet
  byLookahead : Std.HashMap TokenSet Nat
  cores : Std.HashMap (Array Nat) Nat
  coreOf : Array Nat
deriving Inhabited

def Building.lookaheadNumber (b : Building) (s : TokenSet) : Nat × Building :=
  match b.byLookahead[s]? with
  | some n => (n, b)
  | none => (b.lookaheads.size, { b with
      lookaheads := b.lookaheads.push s
      byLookahead := b.byLookahead.insert s b.lookaheads.size })

def Building.stateNumber (b : Building) (kernel : Array (Nat × Nat)) : Nat × Building :=
  match b.byKernel[kernel]? with
  | some n => (n, b)
  | none =>
    let core := kernel.map (·.1)
    let (c, cores) := match b.cores[core]? with
      | some c => (c, b.cores)
      | none => (b.cores.size, b.cores.insert core b.cores.size)
    (b.kernels.size, { b with
      kernels := b.kernels.push kernel
      byKernel := b.byKernel.insert kernel b.kernels.size
      cores
      coreOf := b.coreOf.push c })

/-- Merges items that are equal, after sorting by item. -/
def mergeItems (entries : Array (Nat × TokenSet)) : Array (Nat × TokenSet) := Id.run do
  let sorted := entries.insertionSort fun a b => a.1 < b.1
  let mut out : Array (Nat × TokenSet) := #[]
  for (i, s) in sorted do
    match out.back? with
    | some (j, t) => if i == j then out := out.pop.push (i, s.union t) else out := out.push (i, s)
    | none => out := out.push (i, s)
  return out

/-! ### Conflicts -/

def Rank.holds (name : Nat → String) (strength : Strength) (rules : List Nat) : Rank → Bool
  | .strength n => strength == .named n
  | .rule n => rules.any fun r => name r == n

/-- How `left` stands to `right` in an ordering: the one met first is the tighter. -/
def rankIn (name : Nat → String) (left right : Strength × List Nat) :
    List Rank → Bool → Bool → Option Ordering
  | [], _, _ => none
  | entry :: rest, sawLeft, sawRight =>
    if entry.holds name left.1 left.2 then
      if sawRight then some .lt else rankIn name left right rest true sawRight
    else if entry.holds name right.1 right.2 then
      if sawLeft then some .gt else rankIn name left right rest sawLeft true
    else rankIn name left right rest sawLeft sawRight

/-- Numbers compare as numbers, a missing strength as 0; all else by the first ordering that
holds both sides. -/
def compareStrength (name : Nat → String) (orderings : List (List Rank))
    (left right : Strength × List Nat) : Ordering :=
  let byOrderings :=
    ((orderings.findSome? fun ranks => rankIn name left right ranks false false)).getD .eq
  match left.1, right.1 with
  | .level l, .level r => if l != 0 || r != 0 then compare l r else byOrderings
  | .level l, .plain => if l != 0 then compare l 0 else byOrderings
  | .plain, .level r => if r != 0 then compare 0 r else byOrderings
  | _, _ => byOrderings

/-- The reductions that compete for a token. -/
structure Competing where
  items : List Nat
  strength : Strength
  rules : List Nat
  sides : List (Option Side)
deriving Inhabited

structure Context where
  grammar : Ruleset
  items : Items

def Context.ruleName (c : Context) (r : Nat) : String :=
  match c.items.productions.symbols[c.items.productions.tokens + r]? with
  | some info => info.name
  | none => ""

def Context.compete (c : Context) (token : Nat) (finished : List (Nat × TokenSet)) : Competing :=
  finished.foldl (fun acc (i, s) =>
    if !s.contains token then acc else
    let item := c.items.items[i]!
    let fresh : Competing := ⟨[i], item.strength, [item.rule], [item.side]⟩
    if acc.items.isEmpty then fresh else
    match compareStrength c.ruleName c.grammar.orderings (item.strength, [item.rule])
        (acc.strength, acc.rules) with
    | .gt => fresh
    | .eq => ⟨acc.items ++ [i], item.strength, (item.rule :: acc.rules).eraseDups,
        item.side :: acc.sides⟩
    | .lt => acc) ⟨[], .plain, [], []⟩

def Context.isHelper (c : Context) (r : Nat) : Bool :=
  match c.items.productions.symbols[c.items.productions.tokens + r]? with
  | some info => info.helper
  | none => false

/-- The actions for a token that may be shifted to `target` and may also end productions. -/
def Context.resolve (c : Context) (kernel : Array (Nat × TokenSet)) (token target : Nat)
    (competing : Competing) : List Action :=
  let reduces := competing.items.map Action.reduce
  let shift := Action.shift target false
  let going := kernel.toList.filter fun (i, _) =>
    let item := c.items.items[i]!
    item.read > 0 && match item.next with
      | some n => c.items.first[n]!.contains token
      | none => false
  let ending := kernel.toList.filter fun (i, s) =>
    c.items.items[i]!.next.isNone && s.contains token
  let rules := ((going ++ ending).map fun (i, _) => c.items.items[i]!.rule).eraseDups
  match rules with
  | [r] =>
    if c.isHelper r then reduces ++ [.shift target true] else settle c reduces shift going competing
  | _ => settle c reduces shift going competing
where
  settle (c : Context) (reduces : List Action) (shift : Action) (going : List (Nat × TokenSet))
      (competing : Competing) : List Action :=
    let orders := going.map fun (i, _) =>
      let item := c.items.items[i]!
      compareStrength c.ruleName c.grammar.orderings (item.strength, [item.rule])
        (competing.strength, competing.rules)
    match orders.contains .lt, orders.contains .gt with
    | true, false => reduces
    | false, true => [shift]
    | true, true => reduces ++ [shift]
    | false, false =>
      if competing.sides.all (· == some .left) then reduces
      else if competing.sides.all (· == some .right) then [shift]
      else reduces ++ [shift]

/-! ### States -/

/-- The actions of a state, and the states behind it. -/
def Context.expand (c : Context) (b : Building) (state : Nat) : State × Building := Id.run do
  let g := c.items
  let ps := g.productions
  let kernel := b.kernels[state]!.map fun (i, l) => (i, b.lookaheads[l]!)
  let rules := ps.ofRule.size
  let mut follow : Array TokenSet := Array.replicate rules .empty
  let mut active : Array Bool := Array.replicate rules false
  let mut buckets : Array (Array (Nat × TokenSet)) := Array.replicate (ps.symbols.size + 1) #[]
  for (i, s) in kernel do
    let item := g.items[i]!
    match item.next with
    | none => pure ()
    | some n =>
      buckets := buckets.modify n (·.push (item.successor, s))
      if n ≥ ps.tokens then
        let behind := match item.following with
          | some f => g.first[f]!
          | none => s
        for (m, spontaneous, passes) in g.corners[n - ps.tokens]! do
          let more := if passes then spontaneous.union behind else spontaneous
          follow := follow.modify m (·.union more)
          active := active.set! m true
  let mut finished := #[]
  for m in [0 : rules] do
    if active[m]! then
      let s := follow[m]!
      for (symbol, successor) in g.openings[m]! do
        buckets := buckets.modify symbol (·.push (successor, s))
      match g.blankRules[m]! with
      | some i => finished := finished.push (i, s)
      | none => pure ()
  for (i, s) in kernel do
    if g.items[i]!.next.isNone then
      finished := finished.push (i, s)
  let ends := finished.toList.filter fun (i, _) => g.items[i]!.rule < rules
  let mut b := b
  let mut actions : Array (List Action) := Array.replicate ps.tokens []
  let mut goto : Array Nat := Array.replicate rules 0
  for symbol in [0 : ps.symbols.size] do
    let entries := buckets[symbol]!
    let mut target := 0
    unless entries.isEmpty do
      let mut next := #[]
      for (i, s) in mergeItems entries do
        let (l, b') := b.lookaheadNumber s
        b := b'
        next := next.push (i, l)
      let (t, b') := b.stateNumber next
      b := b'
      target := t
    if symbol < ps.tokens then
      let competing := if ends.isEmpty then default else c.compete symbol ends
      let entry :=
        if target == 0 then competing.items.map Action.reduce
        else if competing.items.isEmpty then [.shift target false]
        else c.resolve kernel symbol target competing
      actions := actions.set! symbol entry
    else
      goto := goto.set! (symbol - ps.tokens) target
  for (i, s) in finished do
    if g.items[i]!.rule ≥ rules && s.contains 0 then
      actions := actions.modify 0 (· ++ [.accept])
  return (⟨actions, goto, b.coreOf[state]!⟩, b)

/-- All states: 0 is the state after an error, 1 the start. -/
def Context.states (c : Context) (limit : Nat) : Array State := Id.run do
  let b : Building := default
  let (_, b) := b.stateNumber #[]
  let (l, b) := b.lookaheadNumber (.singleton 0)
  let (_, b) := b.stateNumber #[(c.items.start, l)]
  let mut b := b
  let mut states := #[]
  for i in [0 : limit] do
    if i < b.kernels.size then
      let (s, b') := c.expand b i
      states := states.push s
      b := b'
    else break
  return states

end Flowchart.Grammar
