import Flowchart.Grammar.Production
import Flowchart.Grammar.TokenSet
import Std.Data.HashMap

/-! What may begin a phrase, and which items a rule brings into a state.

An item is a production read up to some step. Two items that agree on everything a parser can
still notice, the rest of the production and what the read part leaves in the node, are one. -/
namespace Flowchart.Grammar

/-- What is left in a node by the shape of the production that built it: the labels given to its
children, and the fields of the children, marked when they come from inside a hidden child. -/
structure Shape where
  labels : List (Option Label)
  fields : List (String × Nat × Bool)
deriving BEq, Hashable, Inhabited

/-- What a parser does when it has read a whole production. -/
structure Reduction where
  symbol : Nat
  count : Nat
  weight : Int
  strength : Strength
  side : Option Side
  shape : Nat
deriving BEq, Inhabited

structure Item where
  rule : Nat
  read : Nat
  strength : Strength
  side : Option Side
  next : Option Nat
  following : Option Nat
  successor : Nat
  reduction : Reduction
  inherits : Bool
deriving Inhabited

/-- What may be noticed of an item. -/
structure ItemKey where
  rule : Nat
  read : Nat
  length : Nat
  weight : Int
  strength : Strength
  side : Option Side
  done : List (Option Label × Option String × Nat)
  rest : List Step
deriving BEq, Hashable, Inhabited

/-- The fields that each hidden rule passes on to the node around it. -/
def Productions.inheritedFields (ps : Productions) : Array (List String) :=
  let start := Array.replicate ps.ofRule.size []
  let step := fun (fields : Array (List String)) =>
    ps.productions.foldl (fun acc p =>
      let own := p.steps.toList.flatMap fun s =>
        s.field.toList ++
          (if s.symbol ≥ ps.tokens && ps.symbols[s.symbol]!.label.isNone && s.label.isNone
           then fields[s.symbol - ps.tokens]! else [])
      acc.modify p.rule fun old => (old ++ own).eraseDups) fields
  (List.range 8).foldl (fun acc _ => step acc) start

private def Productions.shapeOf (ps : Productions) (inherited : Array (List String))
    (p : Production) : Shape :=
  let labels := p.steps.toList.map (·.label)
  let labels := (labels.reverse.dropWhile Option.isNone).reverse
  let fields := p.steps.toList.zipIdx.flatMap fun (s, i) =>
    (s.field.toList.map fun f => (f, i, false)) ++
      (if s.symbol ≥ ps.tokens && ps.symbols[s.symbol]!.label.isNone
       then inherited[s.symbol - ps.tokens]!.map fun f => (f, i, true) else [])
  ⟨labels, fields.mergeSort fun a b => a.1 < b.1 || (a.1 == b.1 && a.2.1 ≤ b.2.1)⟩

/-- The items of a grammar, the shapes of its nodes, and what closing a state needs: `first` gives
for each symbol the tokens that may begin it, `corners` for each rule the rules that may stand at
its left edge with the tokens that follow them there, and whether what follows the rule follows
them too; `openings` gives for each rule the items behind its first symbols. -/
structure Items where
  productions : Productions
  items : Array Item
  shapes : Array Shape
  first : Array TokenSet
  corners : Array (Array (Nat × TokenSet × Bool))
  openings : Array (Array (Nat × Nat))
  blankRules : Array (Option Nat)
  start : Nat
deriving Inhabited

/-- The tokens that may begin each symbol. -/
def Productions.firstSets (ps : Productions) : Array TokenSet :=
  let start := (Array.range ps.symbols.size).map fun n =>
    if n < ps.tokens then TokenSet.singleton n else .empty
  let step := fun (sets : Array TokenSet) =>
    ps.productions.foldl (fun acc p =>
      match p.steps[0]? with
      | none => acc
      | some s => acc.modify (ps.tokens + p.rule) (·.union acc[s.symbol]!)) sets
  (List.range 32).foldl (fun acc _ => step acc) start

/-- The rules at the left edge of rule `r`. -/
private def Productions.cornersOf (ps : Productions) (first : Array TokenSet) (r : Nat) :
    Array (Nat × TokenSet × Bool) := Id.run do
  let size := ps.ofRule.size
  let mut known : Array (Option (TokenSet × Bool)) := Array.replicate size none
  known := known.set! r (some (.empty, true))
  let mut work := [r]
  -- Every round either adds a token or a mark, of which there are at most 193 for a rule.
  for _ in [0 : size * 193 * 64] do
    match work with
    | [] => break
    | top :: rest =>
      work := rest
      let (follow, passes) := (known[top]!).getD (.empty, false)
      for i in ps.ofRule[top]! do
        let steps := ps.productions[i]!.steps
        match steps[0]? with
        | none => pure ()
        | some s =>
          if s.symbol ≥ ps.tokens then
            let target := s.symbol - ps.tokens
            let (more, morePasses) := match steps[1]? with
              | some t => (first[t.symbol]!, false)
              | none => (follow, passes)
            let (old, oldPasses) := (known[target]!).getD (.empty, false)
            let new := old.union more
            let newPasses := oldPasses || morePasses
            if known[target]!.isNone || new != old || newPasses != oldPasses then
              known := known.set! target (some (new, newPasses))
              work := target :: work
  let mut result := #[]
  for (entry, i) in known.toList.zipIdx do
    match entry with
    | some (follow, passes) => result := result.push (i, follow, passes)
    | none => pure ()
  return result

/-- Numbers the items of a grammar so that items read further come later. -/
def Productions.items (ps : Productions) : Items := Id.run do
  let inherited := ps.inheritedFields
  let startRule := ps.ofRule.size
  let goal : Production :=
    ⟨startRule, #[⟨ps.tokens, .plain, none, none, none⟩], 0⟩
  let all := ps.productions.push goal
  let mut shapes : Array Shape := #[⟨[], []⟩]
  let mut keys : Array (ItemKey × Nat × Nat) := #[]
  let mut known : Std.HashMap ItemKey Nat := {}
  let mut classOf : Array (Array Nat) := #[]
  for (p, pi) in all.toList.zipIdx do
    let mut classes := #[]
    for read in [0 : p.steps.size + 1] do
      let done := (p.steps.extract 0 read).toList
      let inheriting := done.any fun s => s.symbol ≥ ps.tokens
        && ps.symbols[s.symbol]!.label.isNone && !inherited[s.symbol - ps.tokens]!.isEmpty
      let previous := if read == 0 then none else p.steps[read - 1]?
      let key : ItemKey :=
        { rule := p.rule, read, length := p.steps.size, weight := p.weight
          strength := (previous.map (·.strength)).getD .plain
          side := previous.bind (·.side)
          done := done.map fun s => (s.label, s.field, if inheriting then s.symbol else 0)
          rest := (p.steps.extract read p.steps.size).toList }
      match known[key]? with
      | some c => classes := classes.push c
      | none =>
        known := known.insert key keys.size
        classes := classes.push keys.size
        keys := keys.push (key, pi, read)
    classOf := classOf.push classes
  -- Items read further come later, and among those the rules keep their order.
  let order := (List.range keys.size).mergeSort fun a b =>
    let ka := keys[a]!.1
    let kb := keys[b]!.1
    ka.read < kb.read || (ka.read == kb.read && (ka.rule < kb.rule ||
      (ka.rule == kb.rule && (ka.weight < kb.weight ||
        (ka.weight == kb.weight && ka.length ≤ kb.length)))))
  let mut rank : Array Nat := Array.replicate keys.size 0
  for (c, i) in order.zipIdx do
    rank := rank.set! c i
  let mut items : Array Item := #[]
  for c in order do
    let (key, pi, read) := keys[c]!
    let p := all[pi]!
    let shape := ps.shapeOf inherited p
    let shapeIndex ← match shapes.findIdx? (· == shape) with
      | some i => pure i
      | none =>
        shapes := shapes.push shape
        pure (shapes.size - 1)
    items := items.push
      { rule := p.rule, read, strength := key.strength, side := key.side
        next := (p.steps[read]?).map (·.symbol)
        following := (p.steps[read + 1]?).map (·.symbol)
        successor := match (classOf[pi]!)[read + 1]? with
          | some c => rank[c]!
          | none => 0
        reduction := ⟨ps.tokens + p.rule, read, p.weight, key.strength, key.side, shapeIndex⟩
        inherits := false }
  let first := ps.firstSets
  let corners := (Array.range ps.ofRule.size).map (ps.cornersOf first)
  let openings := ps.ofRule.map fun indices =>
    (indices.filterMap fun i =>
      let p := ps.productions[i]!
      (p.steps[0]?).map fun s => (s.symbol, rank[(classOf[i]!)[1]!]!)).eraseDups.toArray
  let blankRules := ps.ofRule.map fun indices =>
    (indices.find? fun i => ps.productions[i]!.steps.isEmpty).map fun i => rank[(classOf[i]!)[0]!]!
  return { productions := ps, items, shapes, first, corners, openings, blankRules
           start := rank[(classOf[all.size - 1]!)[0]!]! }

end Flowchart.Grammar
