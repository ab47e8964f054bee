/-! Sets of token numbers below 192, kept as three words of bits. -/
namespace Flowchart.Grammar

structure TokenSet where
  low : UInt64
  middle : UInt64
  high : UInt64
deriving BEq, Hashable, Inhabited

namespace TokenSet

def empty : TokenSet := ⟨0, 0, 0⟩

def isEmpty (s : TokenSet) : Bool := s.low == 0 && s.middle == 0 && s.high == 0

def contains (s : TokenSet) (n : Nat) : Bool :=
  let word := if n < 64 then s.low else if n < 128 then s.middle else s.high
  (word >>> (n % 64).toUInt64) &&& 1 == 1

def singleton (n : Nat) : TokenSet :=
  let bit : UInt64 := 1 <<< (n % 64).toUInt64
  if n < 64 then ⟨bit, 0, 0⟩ else if n < 128 then ⟨0, bit, 0⟩ else ⟨0, 0, bit⟩

def union (s t : TokenSet) : TokenSet :=
  ⟨s.low ||| t.low, s.middle ||| t.middle, s.high ||| t.high⟩

def insert (s : TokenSet) (n : Nat) : TokenSet := s.union (.singleton n)

def meets (s t : TokenSet) : Bool :=
  (s.low &&& t.low) ||| (s.middle &&& t.middle) ||| (s.high &&& t.high) != 0

def diff (s t : TokenSet) : TokenSet :=
  ⟨s.low &&& ~~~t.low, s.middle &&& ~~~t.middle, s.high &&& ~~~t.high⟩

def ofPred (bound : Nat) (p : Nat → Bool) : TokenSet :=
  (List.range bound).foldl (fun s n => if p n then s.insert n else s) empty

def subset (s t : TokenSet) : Bool := s.union t == t

/-- The members below `bound`, in ascending order. -/
def toList (s : TokenSet) (bound : Nat) : List Nat := (List.range bound).filter s.contains

end TokenSet

end Flowchart.Grammar
