/-! Patterns of tokens. A pattern is read one character at a time: what is left to read after a
character is again a list of patterns, of which any may go on. -/
namespace Flowchart.Lexical

/-- A set of characters, as ranges of code points. -/
structure CharSet where
  ranges : List (Nat × Nat)
deriving BEq, Hashable, Inhabited

namespace CharSet

def mem (s : CharSet) (c : Nat) : Bool := s.ranges.any fun (low, high) => low ≤ c && c ≤ high

def ofChars (text : String) : CharSet := ⟨text.toList.map fun c => (c.toNat, c.toNat)⟩

def range (low high : Char) : CharSet := ⟨[(low.toNat, high.toNat)]⟩

def union (s t : CharSet) : CharSet := ⟨s.ranges ++ t.ranges⟩

/-- The gaps above `from` between ranges in ascending order. -/
private def gaps : Nat → List (Nat × Nat) → List (Nat × Nat)
  | low, [] => if low ≤ 0x10FFFF then [(low, 0x10FFFF)] else []
  | low, (a, b) :: rest =>
    let later := gaps (max low (b + 1)) rest
    if low < a then (low, a - 1) :: later else later

/-- All characters outside the set but the null character, which reads as the end of a text. -/
def compl (s : CharSet) : CharSet := ⟨gaps 1 (s.ranges.mergeSort fun a b => a.1 ≤ b.1)⟩

end CharSet

inductive Pattern
  | done
  | one (set : CharSet)
  | seq (first rest : Pattern)
  | either (left right : Pattern)
  | star (part : Pattern)
deriving BEq, Inhabited

namespace Pattern

/-- The pattern may end here. -/
def nullable : Pattern → Bool
  | done => true
  | one _ => false
  | seq first rest => first.nullable && rest.nullable
  | either left right => left.nullable || right.nullable
  | star _ => true

/-- `first`, then `rest`. -/
def andThen (first rest : Pattern) : Pattern :=
  match first with
  | done => rest
  | first => seq first rest

/-- What may be left after a character. -/
def after (c : Nat) : Pattern → List Pattern
  | done => []
  | one set => if set.mem c then [done] else []
  | seq first rest =>
    let left := (first.after c).map (·.andThen rest)
    if first.nullable then left ++ rest.after c else left
  | either left right => left.after c ++ right.after c
  | star part => (part.after c).map (·.andThen (star part))

/-- The character sets of a pattern. -/
def sets : Pattern → List CharSet
  | done => []
  | one set => [set]
  | seq first rest => first.sets ++ rest.sets
  | either left right => left.sets ++ right.sets
  | star part => part.sets

/-! ### Ways to build patterns -/

def char (c : Char) : Pattern := one ⟨[(c.toNat, c.toNat)]⟩

def text (t : String) : Pattern := t.toList.foldr (fun c rest => seq (char c) rest) done

def anyOf (chars : String) : Pattern := one (.ofChars chars)

def noneOf (chars : String) : Pattern := one (CharSet.ofChars chars).compl

def all (parts : List Pattern) : Pattern := parts.foldr andThen done

def any : List Pattern → Pattern
  | [] => one ⟨[]⟩
  | [p] => p
  | p :: ps => either p (any ps)

def optional (p : Pattern) : Pattern := either p done

def plus (p : Pattern) : Pattern := seq p (star p)

/-- Between `least` and `least + more` times. -/
def times (p : Pattern) (least more : Nat) : Pattern :=
  all (List.replicate least p ++ List.replicate more (optional p))

end Pattern

/-- How a token is spelled. An immediate token stands right behind the token before it. Of two
tokens that read the same text the one with the higher `rank` is meant, then the one with the higher
`weight`: literal texts weigh more than patterns. -/
structure Spelling where
  pattern : Pattern
  immediate : Bool := false
  rank : Int := 0
  weight : Nat := 0
deriving Inhabited

namespace Spelling

def literal (t : String) : Spelling := { pattern := .text t, weight := 2 }

def ofPattern (p : Pattern) : Spelling := { pattern := p }

def adjacent (rank : Int) (p : Pattern) : Spelling :=
  { pattern := p, immediate := true, rank, weight := 1 }

end Spelling

/-- The spellings of tokens by number, where a token has one, and the characters between tokens. -/
structure Lexicon where
  spellings : Array (Option Spelling)
  blanks : CharSet
deriving Inhabited

/-- Of two tokens with the same text, `a` is meant. -/
def Lexicon.prefers (lx : Lexicon) (a b : Nat) : Bool :=
  match lx.spellings[a]!, lx.spellings[b]! with
  | some s, some t =>
    if s.rank != t.rank then s.rank > t.rank
    else if s.weight != t.weight then s.weight > t.weight
    else a < b
  | some _, none => true
  | none, _ => false

/-- Reading may go on with a longer token although `completed` could end here. `rank` is the highest
of the tokens that go on, `blank` says that only a gap between tokens goes on, `gap` that a gap
could go on from here, and `kept` that `completed` itself is among those that go on. -/
def goesOn (rank completed : Int) (blank gap kept : Bool) : Bool :=
  if rank < completed then false
  else if rank == completed then !blank && (!gap || kept)
  else true

end Flowchart.Lexical
