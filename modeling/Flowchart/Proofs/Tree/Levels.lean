import Flowchart.Proofs.Tree.Lowered
import Flowchart.Proofs.Tree.Lowering

/-! Levels of statements. Lowering fails at the first statement below the last level that is accepted,
in the order in which it looks at them, and at nothing else in a tree that has its fields. -/
namespace Flowchart.Tree

/-- The fields that a node must have to be lowered. -/
def requiredFields (t : Tree) : List String :=
  match formOf t.kind with
  | .function => ["name", "body"]
  | .conditional => ["condition", "consequence"]
  | .loop => ["condition", "body"]
  | .program | .block | .declaration | .expression | .exit => []
  | .unsupported => if t.kind = "variable_declarator" then ["name"] else []

def Complete (t : Tree) : Prop :=
  ∀ name ∈ t.requiredFields, ∃ child ∈ t.children, name ∈ child.info.fields

/-- The statements right below one at a level, with their own levels. What follows `else` comes first. -/
def stepsDown (level : Nat) (t : Tree) : List (Nat × Tree) :=
  match formOf t.kind with
  | .program | .block => t.parts.map fun child => (level + 1, child)
  | .function | .loop => (t.field? "body").toList.map fun child => (bodyLevel level child, child)
  | .conditional =>
    (t.elseStatement?.toList ++ (t.field? "consequence").toList).map fun child =>
      (bodyLevel level child, child)
  | .declaration | .expression | .exit | .unsupported => []

section Steps

variable {level : Nat} {t : Tree} {place : Nat × Tree}

theorem stepsDown_cases (member : place ∈ t.stepsDown level) :
    (place.1 = level + 1 ∨ place.1 = bodyLevel level place.2) ∧
      (place.2 ∈ t.children ∨ t.elseStatement? = some place.2) := by
  unfold stepsDown at member
  split at member
  case h_1 | h_2 =>
    obtain ⟨child, part, rfl⟩ := List.mem_map.mp member
    exact ⟨.inl rfl, .inl (mem_of_part part)⟩
  case h_3 | h_4 =>
    obtain ⟨child, filled, rfl⟩ := List.mem_map.mp member
    exact ⟨.inr rfl, .inl (mem_of_field (Option.mem_toList.mp filled))⟩
  case h_5 =>
    obtain ⟨child, listed, rfl⟩ := List.mem_map.mp member
    rcases List.mem_append.mp listed with other | filled
    · exact ⟨.inr rfl, .inr (Option.mem_toList.mp other)⟩
    · exact ⟨.inr rfl, .inl (mem_of_field (Option.mem_toList.mp filled))⟩
  case h_6 | h_7 | h_8 | h_9 => cases member

theorem level_stepsDown (member : place ∈ t.stepsDown level) : place.1 ≤ level + 1 := by
  rcases (stepsDown_cases member).1 with item | body
  · exact Nat.le_of_eq item
  · rw [body, bodyLevel]
    split <;> omega

theorem size_stepsDown (member : place ∈ t.stepsDown level) : place.2.size < t.size := by
  rcases (stepsDown_cases member).2 with child | other
  · exact size_child child
  · obtain ⟨clause, alternative, part⟩ := mem_of_else other
    have := size_child (mem_of_part part)
    have := size_child (mem_of_field alternative)
    omega

theorem every_stepsDown {p : Tree → Prop} (every : t.Every p) (member : place ∈ t.stepsDown level) :
    place.2.Every p := by
  rcases (stepsDown_cases member).2 with child | other
  · exact every.below child
  · obtain ⟨clause, alternative, part⟩ := mem_of_else other
    exact (every.below (mem_of_field alternative)).below (mem_of_part part)

end Steps

/-- A statement and those below it, with their levels, in the order in which they are looked at. -/
def levels (level : Nat) (t : Tree) : List (Nat × Tree) :=
  (level, t) :: (t.stepsDown level).attach.flatMap fun ⟨place, _⟩ => levels place.1 place.2
termination_by t.size
decreasing_by exact size_stepsDown ‹_›

theorem levels_eq (level : Nat) (t : Tree) : t.levels level =
    (level, t) :: (t.stepsDown level).flatMap fun place => levels place.1 place.2 := by
  rw [levels, List.flatMap_subtype (g := fun place => levels place.1 place.2) fun _ _ => rfl,
    List.unattach_attach]

/-- The first statement right below the last level that is accepted. -/
def tooDeep? (level : Nat) (t : Tree) : Option (Nat × Tree) :=
  (t.levels level).find? fun place => place.1 == statementLimit + 1

/-- A result that is a value, unless a place is given that is too deep. -/
def Decided {α : Type} : Option (Nat × Tree) → Except Fault α → Prop
  | some place, result => result = .error (.tooDeep statementLimit place.2.info.row)
  | none, result => ∃ value, result = .ok value

namespace Decided

variable {α β : Type} {deep other : Option (Nat × Tree)} {result : Except Fault α}

theorem bind {next : α → Except Fault β} (first : Decided deep result)
    (rest : ∀ value, Decided other (next value)) : Decided (deep.or other) (result >>= next) := by
  cases deep with
  | some place =>
    cases (first : result = _)
    rfl
  | none =>
    obtain ⟨value, rfl⟩ := first
    exact rest value

theorem value {f : α → β} (first : Decided deep result) :
    Decided deep (result >>= fun value => return f value) := by
  have whole : Decided (deep.or none) (result >>= fun value => return f value) :=
    first.bind fun value => ⟨f value, rfl⟩
  rwa [Option.or_none] at whole

theorem mapM {γ : Type} {items : List γ} {find : γ → Option (Nat × Tree)}
    {f : γ → Except Fault α} (each : ∀ item ∈ items, Decided (find item) (f item)) :
    Decided (items.findSome? find) (items.mapM f) := by
  induction items with
  | nil => exact ⟨[], rfl⟩
  | cons item rest ih =>
    have later := ih fun other listed => each other (List.mem_cons_of_mem item listed)
    have here : Decided (find item) (f item) := each item List.mem_cons_self
    rw [List.mapM_cons, Walk.findSome?_first]
    exact here.bind fun value => later.value

theorem error_iff {limit line : Nat} (decided : Decided deep result) :
    result = .error (.tooDeep limit line) ↔
      limit = statementLimit ∧ ∃ place, deep = some place ∧ line = place.2.info.row := by
  cases deep with
  | some place =>
    rw [(decided : result = _)]
    simp [eq_comm]
  | none =>
    obtain ⟨value, rfl⟩ := decided
    simp

theorem ok_iff (decided : Decided deep result) : (∃ value, result = .ok value) ↔ deep = none := by
  cases deep with
  | some place =>
    rw [(decided : result = _)]
    simp
  | none => exact ⟨fun _ => rfl, fun _ => decided⟩

end Decided

section Complete

variable {t : Tree}

theorem required_decided (name : String) (complete : t.Complete) (needed : name ∈ t.requiredFields) :
    Decided none (t.required name) := by
  obtain ⟨child, member, fills⟩ := complete name needed
  have filled : (t.field? name).isSome :=
    List.find?_isSome.mpr ⟨child, member, List.contains_iff_mem.mpr fills⟩
  obtain ⟨first, found⟩ := Option.isSome_iff_exists.mp filled
  exact ⟨first, by rw [required, found]⟩

theorem conditionSpan_decided (complete : t.Complete) (needed : "condition" ∈ t.requiredFields) :
    Decided none t.conditionSpan := by
  refine (required_decided "condition" complete needed).bind fun condition => ?_
  split
  · split <;> exact ⟨_, rfl⟩
  · exact ⟨_, rfl⟩

theorem declarators_decided (complete : t.Every Complete) : Decided none t.declarators := by
  have each : ∀ child ∈ t.parts.filter fun child => child.kind == "variable_declarator",
      Decided none child.declarator := by
    intro child listed
    obtain ⟨part, declares⟩ := List.mem_filter.mp listed
    have kind : child.kind = "variable_declarator" := eq_of_beq declares
    have here := (complete.below (mem_of_part part)).here
    exact (required_decided "name" here (by simp [requiredFields, kind, formOf])).value
  have all := Decided.mapM each
  rwa [List.findSome?_eq_none_iff.mpr fun _ _ => rfl] at all

end Complete

section Verdict

variable {level : Nat} {t : Tree}

theorem tooDeep?_eq (shallow : level ≤ statementLimit) : t.tooDeep? level =
    (t.stepsDown level).findSome? fun place => tooDeep? place.1 place.2 := by
  have here : (level == statementLimit + 1) = false := by
    rw [beq_eq_false_iff_ne]
    omega
  rw [tooDeep?, levels_eq, List.find?_cons, here, List.find?_flatMap]
  rfl

theorem decided_else {other : Option Tree} {places : List (Nat × Tree)}
    (listed : places = other.toList.map fun s => (bodyLevel level s, s))
    (each : ∀ place ∈ places, Decided (tooDeep? place.1 place.2) (lower place.1 place.2)) :
    Decided (places.findSome? fun place => tooDeep? place.1 place.2)
      (other.mapM fun s => lower (bodyLevel level s) s) := by
  subst listed
  cases other with
  | none => exact ⟨none, rfl⟩
  | some s =>
    simp only [Option.toList_some, List.map_singleton, Walk.findSome?_one, Option.mapM_some,
      map_eq_pure_bind]
    exact (each (bodyLevel level s, s) List.mem_cons_self).value

theorem lower_decided (level : Nat) (t : Tree) (reached : level ≤ statementLimit + 1)
    (complete : t.Every Complete) : Decided (t.tooDeep? level) (lower level t) := by
  rcases Nat.lt_or_ge statementLimit level with deep | shallow
  · have last : level = statementLimit + 1 := by omega
    have found : t.tooDeep? level = some (level, t) := by
      rw [tooDeep?, levels_eq, List.find?_cons_of_pos (by simp [last])]
    rw [found, lower_eq, lowerOver, if_pos deep]
    rfl
  · have steps : ∀ place ∈ t.stepsDown level,
        Decided (tooDeep? place.1 place.2) (lower place.1 place.2) := by
      intro place member
      have := size_stepsDown member
      have := level_stepsDown member
      exact lower_decided place.1 place.2 (by omega) (every_stepsDown complete member)
    have here := complete.here
    rw [tooDeep?_eq shallow, lower_eq, lowerOver, if_neg (Nat.not_lt.mpr shallow)]
    rw [stepsDown] at steps ⊢
    cases form : formOf t.kind <;> rw [form] at steps <;> dsimp only at steps ⊢
    case program | block =>
      rw [List.findSome?_map]
      have list := Decided.mapM fun child part => steps (level + 1, child) (List.mem_map_of_mem part)
      exact list.value
    case function =>
      obtain ⟨name, named⟩ := required_decided "name" here (by simp [requiredFields, form])
      obtain ⟨body, found⟩ := required_decided "body" here (by simp [requiredFields, form])
      rw [required_eq_ok found] at steps ⊢
      simp only [named, found, Option.toList_some, List.map_singleton, Walk.findSome?_one]
      exact (steps (bodyLevel level body, body) List.mem_cons_self).value
    case loop =>
      obtain ⟨body, found⟩ := required_decided "body" here (by simp [requiredFields, form])
      obtain ⟨test, condition⟩ := conditionSpan_decided here (by simp [requiredFields, form])
      rw [required_eq_ok found] at steps ⊢
      simp only [found, condition, Option.toList_some, List.map_singleton, Walk.findSome?_one]
      exact (steps (bodyLevel level body, body) List.mem_cons_self).value
    case conditional =>
      obtain ⟨child, found⟩ :=
        required_decided "consequence" here (by simp [requiredFields, form])
      obtain ⟨test, condition⟩ := conditionSpan_decided here (by simp [requiredFields, form])
      rw [required_eq_ok found] at steps ⊢
      rw [List.map_append] at steps ⊢
      obtain ⟨others, own⟩ := List.forall_mem_append.mp steps
      have alternate : Decided _ (t.elseStatement?.mapM fun s => lower (bodyLevel level s) s) :=
        decided_else rfl others
      rw [found, condition, List.findSome?_append]
      -- What follows `else` is lowered first, so its faults come first.
      apply alternate.bind
      intro alternate
      simp only [Option.toList_some, List.map_singleton, Walk.findSome?_one]
      exact (own (bodyLevel level child, child) List.mem_cons_self).value
    case declaration => exact (declarators_decided complete).value
    case expression | exit | unsupported => exact ⟨_, rfl⟩
termination_by t.size

theorem tooDeep?_eq_some_iff {place : Nat × Tree} : t.tooDeep? level = some place ↔
    place.1 = statementLimit + 1 ∧ ∃ before after, t.levels level = before ++ place :: after ∧
      ∀ other ∈ before, other.1 ≠ statementLimit + 1 := by
  simp [tooDeep?, List.find?_eq_some_iff_append]

theorem tooDeep?_eq_none_iff :
    t.tooDeep? level = none ↔ ∀ place ∈ t.levels level, place.1 ≠ statementLimit + 1 := by
  simp [tooDeep?]

end Verdict

/-- A tree that has its fields is refused exactly if a statement of it is at level 257, and the line is
that of the first such statement. What stands in an expression or in an unsupported statement is at no
level, and does not matter. -/
theorem lower_tooDeep_iff {t : Tree} (complete : t.Every Complete) :
    (∀ limit line, t.lower 0 = .error (.tooDeep limit line) ↔
      limit = 256 ∧ ∃ before deep after, t.levels 0 = before ++ (257, deep) :: after ∧
        (∀ place ∈ before, place.1 ≠ 257) ∧ line = deep.info.row) ∧
    ((∃ s, t.lower 0 = .ok s) ↔ ∀ place ∈ t.levels 0, place.1 ≠ 257) ∧
    ∀ level info children others,
      formOf info.kind = .expression ∨ formOf info.kind = .unsupported →
        lower level (node info children) = lower level (node info others) := by
  have decided := lower_decided 0 t (Nat.zero_le _) complete
  refine ⟨?_, ?_, ?_⟩
  · intro limit line
    rw [decided.error_iff]
    apply and_congr_right
    intro _
    constructor
    · rintro ⟨⟨level, deep⟩, found, row⟩
      obtain ⟨rfl, before, after, split, accepted⟩ := tooDeep?_eq_some_iff.mp found
      exact ⟨before, deep, after, split, accepted, row⟩
    · rintro ⟨before, deep, after, split, accepted, row⟩
      exact ⟨(257, deep), tooDeep?_eq_some_iff.mpr ⟨rfl, before, after, split, accepted⟩, row⟩
  · rw [decided.ok_iff, tooDeep?_eq_none_iff]
    exact Iff.rfl
  · intro level info children others other
    have kind (ts : List Tree) : (node info ts).kind = info.kind := rfl
    rw [lower_eq, lower_eq, lowerOver, lowerOver, kind, kind]
    rcases other with form | form <;> rw [form] <;> rfl

/-- An expression in a line, inside so many loops without braces. -/
def inLoops (line : Nat) : Nat → List String → Tree
  | 0, fields =>
    node ⟨"expression_statement", true, false, .read, false, fields, ⟨0, 0⟩, line, 0⟩ []
  | n + 1, fields => sample "while_statement" fields ⟨0, 0⟩
    [sample "identifier" ["condition"] ⟨0, 0⟩ [], inLoops line n ["body"]]

/-- The tree of a condition with branches that are too deep in lines 1 and 2. -/
def deepTree : Tree :=
  sample "program" [] ⟨0, 0⟩ [sample "if_statement" [] ⟨0, 0⟩ [
    sample "identifier" ["condition"] ⟨0, 0⟩ [], inLoops 1 255 ["consequence"],
    sample "else_clause" ["alternative"] ⟨0, 0⟩ [inLoops 2 255 []]]]

theorem fields_sample (kind : String) (fields : List String) (span : Span) (children : List Tree) :
    (sample kind fields span children).info.fields = fields := rfl

theorem fields_inLoops (line n : Nat) (fields : List String) :
    (inLoops line n fields).info.fields = fields := by
  cases n <;> rfl

theorem complete_inLoops (line n : Nat) (fields : List String) :
    (inLoops line n fields).Every Complete := by
  induction n generalizing fields with
  | zero => exact ⟨nofun, trivial⟩
  | succ n ih =>
    have filled : ∀ name ∈ ["condition", "body"],
        ∃ child ∈ [sample "identifier" ["condition"] ⟨0, 0⟩ [], inLoops line n ["body"]],
          name ∈ child.info.fields := by
      simp [fields_inLoops, fields_sample]
    exact ⟨filled, ⟨nofun, trivial⟩, ih ["body"], trivial⟩

set_option maxRecDepth 10000 in
theorem deepTree_refused : deepTree.Every Complete ∧ deepTree.lower 0 = .error (.tooDeep 256 2) ∧
    ∃ before deep after, deepTree.levels 0 = before ++ (257, deep) :: after ∧
      (∀ place ∈ before, place.1 ≠ 257) ∧ 2 = deep.info.row := by
  have complete : deepTree.Every Complete := by
    have filled : ∀ name ∈ ["condition", "consequence"],
        ∃ child ∈ [sample "identifier" ["condition"] ⟨0, 0⟩ [], inLoops 1 255 ["consequence"],
            sample "else_clause" ["alternative"] ⟨0, 0⟩ [inLoops 2 255 []]],
          name ∈ child.info.fields := by
      simp [fields_inLoops, fields_sample]
    exact ⟨nofun, ⟨filled, ⟨nofun, trivial⟩, complete_inLoops 1 255 ["consequence"],
      ⟨nofun, complete_inLoops 2 255 [], trivial⟩, trivial⟩, trivial⟩
  have refused : deepTree.lower 0 = .error (.tooDeep 256 2) := by rfl
  exact ⟨complete, refused, (((lower_tooDeep_iff complete).1 256 2).mp refused).2⟩

end Flowchart.Tree
