import Flowchart.Lexical.Pattern

/-! Which tokens may be mistaken for each other. For each pair of tokens all texts that both may
begin to read are followed; a text stands here for one of finitely many characters that no pattern
tells apart. -/
namespace Flowchart.Lexical

/-- What may happen to a token beside another one: it may be meant where both read the same text;
it may go on where the other could end, also with a character that may come after the other; it may
end inside the gap before the other; it may be cut short although the other goes on; it may read a
text that the other does not. -/
structure Confusion where
  sameText : Bool := false
  goesOn : Bool := false
  goesOnValidly : Bool := false
  insideGap : Bool := false
  cutShort : Bool := false
  differs : Bool := false
deriving Inhabited

def Confusion.merge (a b : Confusion) : Confusion :=
  ⟨a.sameText || b.sameText, a.goesOn || b.goesOn, a.goesOnValidly || b.goesOnValidly,
    a.insideGap || b.insideGap, a.cutShort || b.cutShort, a.differs || b.differs⟩

/-- One character of each class that the lexicon tells apart. -/
def Lexicon.samples (lx : Lexicon) : Array Nat :=
  let sets := lx.blanks :: lx.spellings.toList.flatMap fun s =>
    match s with
    | some s => s.pattern.sets
    | none => []
  let bounds := sets.flatMap fun s => s.ranges.flatMap fun (low, high) => [low, high + 1]
  let sorted := (0 :: bounds).mergeSort
  (sorted.foldl (fun (acc : Array Nat) b =>
    if acc.back? == some b || b > 0x10FFFF then acc else acc.push b) #[])

/-- The readings of one token: still in the gap before it, or with the given patterns left. -/
structure Reading where
  gap : Bool
  left : List Pattern
deriving BEq, Inhabited

def Reading.live (r : Reading) : Bool := r.gap || !r.left.isEmpty

def Reading.complete (r : Reading) : Bool := r.left.any Pattern.nullable

def Reading.start (s : Spelling) : Reading :=
  if s.immediate then ⟨false, [s.pattern]⟩ else ⟨true, []⟩

private def dedup : List Pattern → List Pattern
  | [] => []
  | [p] => [p]
  | ps => ps.eraseDups

/-- The reading after a character: what stays in the gap, and what goes on in the token. -/
def Reading.step (r : Reading) (s : Spelling) (blanks : CharSet) (c : Nat) : Reading :=
  let begun := if r.gap then s.pattern.after c else []
  ⟨r.gap && blanks.mem c, dedup (begun ++ r.left.flatMap (Pattern.after c))⟩

structure Pair where
  first : Confusion := {}
  second : Confusion := {}
  seen : List (Reading × Reading) := []
  work : List (Reading × Reading) := []

/-- One text that both tokens read: what it shows, and the texts one character longer. -/
def Pair.examine (lx : Lexicon) (samples : Array Nat) (i j : Nat) (s t : Spelling)
    (follows : Nat → Nat → Bool) (p : Pair) (a b : Reading) : Pair := Id.run do
  let mut p := p
  if !b.live then
    return { p with first := p.first.merge { differs := true } }
  if !a.live then
    return { p with second := p.second.merge { differs := true } }
  let gap := a.gap || b.gap
  let mut completed : Option Nat := none
  if gap then
    if a.complete then p := { p with first := p.first.merge { insideGap := true } }
    else if b.complete then p := { p with second := p.second.merge { insideGap := true } }
  else if a.complete && b.complete then
    if lx.prefers i j then
      p := { p with first := p.first.merge { sameText := true } }
      completed := some i
    else
      p := { p with second := p.second.merge { sameText := true } }
      completed := some j
  else if a.complete then completed := some i
  else if b.complete then completed := some j
  for c in samples do
    let a' := a.step s lx.blanks c
    let b' := b.step t lx.blanks c
    if a'.live || b'.live then
      match completed with
      | none => pure ()
      | some k =>
        let kept := if k == i then a'.live else b'.live
        let rank := if a'.left.isEmpty then (if b'.left.isEmpty then 0 else t.rank)
          else if b'.left.isEmpty then s.rank else max s.rank t.rank
        let rank := if a'.gap || b'.gap then max rank 0 else rank
        let own := if k == i then s.rank else t.rank
        unless kept do
          if rank ≥ own then
            let seen : Confusion := { goesOn := true, goesOnValidly := follows k c }
            p := if k == i then { p with second := p.second.merge seen }
              else { p with first := p.first.merge seen }
          else
            p := if k == i then { p with first := p.first.merge { cutShort := true } }
              else { p with second := p.second.merge { cutShort := true } }
      unless p.seen.contains (a', b') do
        p := { p with seen := (a', b') :: p.seen, work := (a', b') :: p.work }
  return p

/-- All that two tokens show beside each other. -/
def Lexicon.compare (lx : Lexicon) (samples : Array Nat) (follows : Nat → Nat → Bool)
    (i j : Nat) (s t : Spelling) : Confusion × Confusion := Id.run do
  let start := (Reading.start s, Reading.start t)
  let mut p : Pair := { seen := [start], work := [start] }
  for _ in [0 : 100000] do
    match p.work with
    | [] => break
    | (a, b) :: rest => p := { p with work := rest }.examine lx samples i j s t follows a b
  return (p.first, p.second)

/-- The characters that may begin a token, the gap before it included. -/
def Lexicon.openings (lx : Lexicon) (samples : Array Nat) (token : Nat) : Array Bool :=
  match lx.spellings[token]! with
  | none => samples.map fun _ => false
  | some s => samples.map fun c =>
    (!s.immediate && lx.blanks.mem c) || !(s.pattern.after c).isEmpty

/-- How each token behaves beside each other: `confusions[i * n + j]` is `i` beside `j`.
`following[i]` says which tokens may come right after token `i`. -/
def Lexicon.confusions (lx : Lexicon) (following : Array (List Nat)) : Array Confusion := Id.run do
  let n := lx.spellings.size
  let samples := lx.samples
  let openings := (Array.range n).map (lx.openings samples)
  let next := following.map fun tokens =>
    tokens.foldl (fun (acc : Array Bool) t => acc.zipWith (· || ·) openings[t]!)
      (samples.map fun _ => false)
  let position := fun (c : Nat) => (samples.findIdx? (· == c)).getD 0
  let mut table : Array Confusion := Array.replicate (n * n) {}
  for i in [0 : n] do
    for j in [i + 1 : n] do
      match lx.spellings[i]!, lx.spellings[j]! with
      | some s, some t =>
        let gaps := !s.immediate && !t.immediate
        let meet := (samples.zip ((openings[i]!).zip openings[j]!)).any fun (c, a, b) =>
          a && b && !(gaps && lx.blanks.mem c)
        if meet then
          let follows := fun k c => (next[k]!)[position c]!
          let (x, y) := lx.compare samples follows i j s t
          table := (table.set! (i * n + j) x).set! (j * n + i) y
      | _, _ => pure ()
  return table

namespace Confusion

/-- Beside the other token this one may be read wrongly. -/
def clashes (c : Confusion) : Bool := c.goesOnValidly || c.insideGap || c.sameText

def overlaps (c : Confusion) : Bool :=
  c.insideGap || c.cutShort || c.sameText || c.goesOn

end Confusion

end Flowchart.Lexical
