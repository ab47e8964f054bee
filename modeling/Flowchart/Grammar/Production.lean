import Flowchart.Grammar.Rule

/-! Productions: the rules of a grammar spelled out as sequences of symbols. Choices become several
productions, a repetition becomes a rule of its own that pairs up shorter repetitions, and inlined
rules disappear. -/
namespace Flowchart.Grammar

/-- A symbol at its place in a production, with the annotations that reach this place. -/
structure Step where
  symbol : Nat
  strength : Strength
  side : Option Side
  label : Option Label
  field : Option String
deriving BEq, Hashable, Inhabited

structure Production where
  rule : Nat
  steps : Array Step
  weight : Int
deriving BEq, Inhabited

/-- A symbol of a grammar: `label` is absent for what stays hidden, and `helper` marks the rules
that stand for repetitions. -/
structure SymbolInfo where
  name : String
  label : Option Label
  helper : Bool
deriving Inhabited

/-- The productions of a grammar over numbered symbols: tokens first, then rules, so that rule `i`
is the symbol `tokens + i`. Token 0 is the end of the text and token 1 the word token. -/
structure Productions where
  tokens : Nat
  symbols : Array SymbolInfo
  productions : Array Production
  ofRule : Array (List Nat)
deriving Inhabited

/-! ### Repetitions -/

/-- The repetitions met so far: how many in the current rule, and the rules made for them. -/
structure Repeats where
  count : Nat
  known : List (Rule × String)
  made : List (String × Rule)

mutual

/-- Replaces each repetition by a reference to a helper rule, one for each distinct part. -/
def Rule.nameRepeats (owner : String) : Rule → StateM Repeats Rule
  | .seq parts => return .seq (← nameRepeatsIn owner parts)
  | .oneOf choices => return .oneOf (← nameRepeatsIn owner choices)
  | .repeated part => do
    let part ← part.nameRepeats owner
    let state ← get
    match state.known.find? (·.1 == part) with
    | some (_, name) => return .symbol name
    | none =>
      let name := owner ++ "_repeat" ++ toString (state.count + 1)
      let rule := .oneOf [.seq [.symbol name, .symbol name], part]
      set { count := state.count + 1, known := (part, name) :: state.known,
            made := (name, rule) :: state.made : Repeats }
      return .symbol name
  | .binding strength side part => return .binding strength side (← part.nameRepeats owner)
  | .weighing weight part => return .weighing weight (← part.nameRepeats owner)
  | .shownAs label part => return .shownAs label (← part.nameRepeats owner)
  | .field name part => return .field name (← part.nameRepeats owner)
  | rule => return rule

def nameRepeatsIn (owner : String) : List Rule → StateM Repeats (List Rule)
  | [] => return []
  | r :: rs => return (← r.nameRepeats owner) :: (← nameRepeatsIn owner rs)

end

/-- The rules without repetitions, and the helper rules in the order they were met. -/
def nameAllRepeats (rules : List (String × Rule)) : List (String × Rule) × List (String × Rule) :=
  let step := fun (done, state) (name, rule) =>
    let (rule, state) := (rule.nameRepeats name).run { state with count := 0 }
    ((name, rule) :: done, state)
  let (done, state) := rules.foldl step ([], ⟨0, [], []⟩)
  (done.reverse, state.made.reverse)

/-! ### Choices -/

mutual

/-- The ways to choose one branch at every choice. -/
def Rule.choices : Rule → List Rule
  | .seq parts => (choicesOfAll parts).map .seq
  | .oneOf branches => choicesOfAny branches
  | .binding strength side part => part.choices.map (.binding strength side)
  | .weighing weight part => part.choices.map (.weighing weight)
  | .shownAs label part => part.choices.map (.shownAs label)
  | .field name part => part.choices.map (.field name)
  | rule => [rule]

def choicesOfAll : List Rule → List (List Rule)
  | [] => [[]]
  | r :: rs =>
    let later := choicesOfAll rs
    r.choices.flatMap fun first => later.map (first :: ·)

def choicesOfAny : List Rule → List Rule
  | [] => []
  | r :: rs => r.choices ++ choicesOfAny rs

end

/-! ### Steps -/

/-- The annotations that surround a part of a rule. -/
structure Setting where
  strength : Strength
  side : Option Side
  label : Option Label
  field : Option String

private def mapLast (f : Step → Step) (steps : List Step) : List Step :=
  match steps.reverse with
  | [] => []
  | last :: before => (f last :: before).reverse

mutual

/-- The steps of a rule without choices; `atEnd` says that nothing follows it. -/
def Rule.steps (number : Bool → String → Nat) (setting : Setting) (atEnd : Bool) :
    Rule → List Step
  | .symbol name => [⟨number false name, setting.strength, setting.side, setting.label,
      setting.field⟩]
  | .text literal => [⟨number true literal, setting.strength, setting.side, setting.label,
      setting.field⟩]
  | .seq parts => stepsOfAll number setting atEnd parts
  | .binding strength side part =>
    let inner := { setting with
      strength := if strength == .plain then setting.strength else strength
      side := side.or setting.side }
    let steps := part.steps number inner atEnd
    -- The last step of a phrase that something follows takes its strength from outside.
    if atEnd then steps else
      mapLast (fun last =>
        { last with
          strength := if strength == .plain then last.strength else setting.strength
          side := if side.isSome then setting.side else last.side }) steps
  | .weighing _ part => part.steps number setting atEnd
  | .shownAs label part => part.steps number { setting with label := some label } atEnd
  | .field name part => part.steps number { setting with field := some name } atEnd
  | _ => []

def stepsOfAll (number : Bool → String → Nat) (setting : Setting) (atEnd : Bool) :
    List Rule → List Step
  | [] => []
  | r :: rs =>
    r.steps number setting (atEnd && rs.isEmpty) ++ stepsOfAll number setting atEnd rs

end

/-- Of two weights the one further from zero, the first if they are equally far. -/
def heavier (a b : Int) : Int := if b.natAbs > a.natAbs then b else a

mutual

/-- The weight of a rule without choices: the heaviest of its parts. -/
def Rule.weight : Rule → Int
  | .seq parts => weightOfAll parts
  | .binding _ _ part => part.weight
  | .weighing weight part => heavier weight part.weight
  | .shownAs _ part => part.weight
  | .field _ part => part.weight
  | _ => 0

def weightOfAll : List Rule → Int
  | [] => 0
  | r :: rs => heavier r.weight (weightOfAll rs)

end

/-! ### Inlining -/

/-- Puts the steps of `inner` in place of step `i`: its label and field reach all of them, its
strength and side the last one where that has none. -/
private def Production.expandStep (outer : Production) (i : Nat) (inner : Production) :
    Production :=
  let removed := outer.steps[i]!
  let steps := inner.steps.map fun s =>
    { s with label := removed.label.or s.label, field := removed.field.or s.field }
  let steps := steps.modify (steps.size - 1) fun s =>
    { s with
      strength := if s.strength == .plain then removed.strength else s.strength
      side := s.side.or removed.side }
  { outer with
    steps := outer.steps.extract 0 i ++ steps ++ outer.steps.extract (i + 1) outer.steps.size
    weight := heavier outer.weight inner.weight }

/-- Expands inlined rules until none is left, at most `fuel` deep. -/
private def Production.expand (inlined : Nat → Option (List Production)) :
    Nat → Production → List Production
  | 0, p => [p]
  | fuel + 1, p =>
    let found := p.steps.findIdx? fun s => (inlined s.symbol).isSome
    match found with
    | none => [p]
    | some i =>
      ((inlined p.steps[i]!.symbol).getD []).flatMap fun inner =>
        (p.expandStep i inner).expand inlined fuel

/-! ### Symbols -/

mutual

/-- The pieces of text that a rule spells, in order. -/
def Rule.texts : Rule → List String
  | .text literal => [literal]
  | .seq parts => textsOfAll parts
  | .oneOf branches => textsOfAll branches
  | .repeated part => part.texts
  | .binding _ _ part => part.texts
  | .weighing _ part => part.texts
  | .shownAs _ part => part.texts
  | .field _ part => part.texts
  | _ => []

def textsOfAll : List Rule → List String
  | [] => []
  | r :: rs => r.texts ++ textsOfAll rs

end

private def Ruleset.labelOf (g : Ruleset) (name : String) : Option Label :=
  match g.labels.lookup name with
  | some label => some label
  | none =>
    if name.startsWith "_" || g.hidden.contains name then none else some ⟨name, true⟩

/-- The tokens in order of first use: the end, the word, all others, then the layout tokens. -/
def Ruleset.tokenInfos (g : Ruleset) : Array SymbolInfo :=
  let ofRule := fun (name, rule) =>
    match rule with
    | .lexeme => [(name, g.labelOf name)]
    | rule => rule.texts.map fun t => (t, some ⟨t, false⟩)
  let spelled := (g.rules.flatMap ofRule).filter (·.1 != g.word)
  let ends := [("end", none), (g.word, g.labelOf g.word)]
  let add := fun (acc : Array SymbolInfo) (name, label) =>
    if acc.any (·.name == name) then acc else acc.push ⟨name, label, false⟩
  let layout := g.layoutTokens.map fun t => (t.name, t.label)
  (ends ++ spelled ++ layout).foldl add #[]

/-- All productions of a grammar. -/
def Ruleset.productions (g : Ruleset) : Productions :=
  let tokens := g.tokenInfos
  let phrases := g.rules.filter fun (_, rule) => rule != .lexeme
  let (named, helpers) := nameAllRepeats phrases
  let rules := (named ++ helpers).toArray
  let infos := named.map (fun (n, _) => (⟨n, g.labelOf n, false⟩ : SymbolInfo)) ++
    helpers.map fun (n, _) => ⟨n, none, true⟩
  let number := fun (isText : Bool) (name : String) =>
    let token := tokens.findIdx? (·.name == name)
    let rule := rules.findIdx? (·.1 == name)
    match isText, token, rule with
    | true, some t, _ => t
    | _, _, some r => tokens.size + r
    | _, some t, none => t
    | _, none, none => 0
  let setting : Setting := ⟨.plain, none, none, none⟩
  let flat := rules.mapIdx fun i (_, rule) =>
    (rule.choices.map fun (c : Rule) =>
      (⟨i, (c.steps number setting true).toArray, c.weight⟩ : Production)).eraseDups
  let inlined := fun (symbol : Nat) =>
    match infos[symbol - tokens.size]? with
    | some info =>
      if symbol ≥ tokens.size && g.inlined.contains info.name then flat[symbol - tokens.size]?
      else none
    | none => none
  let expanded := flat.mapIdx fun i ps =>
    if (inlined (tokens.size + i)).isSome then []
    else (ps.flatMap fun (p : Production) => p.expand inlined 64).eraseDups
  let add := fun (acc : Array Production × Array (List Nat)) (ps : List Production) =>
    (acc.1 ++ ps.toArray, acc.2.push (List.range' acc.1.size ps.length))
  let (all, ofRule) := expanded.foldl add (#[], #[])
  { tokens := tokens.size, symbols := tokens ++ infos.toArray, productions := all, ofRule }

end Flowchart.Grammar
