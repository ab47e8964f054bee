/-! How alike two words are: how many letters they share in nearly the same places, with a bonus for
a common beginning. -/
namespace Flowchart.Text

/-- A share between 0 and 1 as a fraction. -/
structure Share where
  part : Nat
  whole : Nat
deriving DecidableEq, Inhabited, Repr

def Share.lt (a b : Share) : Bool := a.part * b.whole < b.part * a.whole

/-- Letters paired off so far: which letters of the second word are taken, how many pairs there are,
how many of them cross the pair before, and where the last one ended. -/
structure Pairing where
  taken : List Nat
  pairs : Nat
  crossed : Nat
  last : Nat

/-- Pairs the letter `c` at place `i` with the first free equal letter not too far from it. -/
def Pairing.add (other : List Char) (range : Nat) (p : Pairing) (c : Char) (i : Nat) : Pairing :=
  let found := other.zipIdx.find? fun (d, j) =>
    d == c && i - range ≤ j && j ≤ i + range && !p.taken.contains j
  match found with
  | none => p
  | some (_, j) =>
    ⟨j :: p.taken, p.pairs + 1, if j < p.last then p.crossed + 1 else p.crossed, j⟩

/-- The share of letters that two words have in common. -/
def commonLetters (a b : List Char) : Share :=
  if a.isEmpty && b.isEmpty then ⟨1, 1⟩
  else if a.length ≤ 1 && b.length ≤ 1 then if a == b then ⟨1, 1⟩ else ⟨0, 1⟩
  else
    let range := max a.length b.length / 2 - 1
    let p := a.zipIdx.foldl (fun (p : Pairing) (c, i) => p.add b range c i) ⟨[], 0, 0, 0⟩
    if p.pairs == 0 then ⟨0, 1⟩
    else
      -- The mean of the shares of paired letters in either word and of pairs that do not cross.
      ⟨p.pairs * p.pairs * (a.length + b.length) + (p.pairs - p.crossed) * a.length * b.length,
        3 * a.length * b.length * p.pairs⟩

/-- How many letters two words begin with alike. -/
def commonStart : List Char → List Char → Nat
  | a :: as, b :: bs => if a == b then commonStart as bs + 1 else 0
  | _, _ => 0

/-- How alike two words are: each letter of a common beginning takes away a tenth of the distance. -/
def similarity (a b : String) : Share :=
  let s := commonLetters a.toList b.toList
  let bonus := min 10 (commonStart a.toList b.toList)
  ⟨10 * s.part + bonus * (s.whole - s.part), 10 * s.whole⟩

/-- The word most like a given one, the first of several, if any is like it enough. -/
def closest? (word : String) (words : List String) : Option String :=
  let step := fun (best : Option (String × Share)) (other : String) =>
    let share := similarity word other
    let good := Share.lt ⟨4, 5⟩ share && match best with
      | none => true
      | some (_, old) => old.lt share
    if good then some (other, share) else best
  (words.foldl step none).map (·.1)

end Flowchart.Text
