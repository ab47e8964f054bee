/-! Waiting until changes have come to rest. Times count microseconds. -/
namespace Flowchart

/-- Answers once when nothing was touched for a while; `touched` is the last touch not yet answered
for. -/
structure Debouncer where
  quiet : Nat
  touched : Option Nat
deriving DecidableEq, Inhabited, Repr

/-- How long changes have to rest if nothing else is said. -/
def defaultQuiet : Nat := 200000

namespace Debouncer

def start (quiet : Nat) : Debouncer := ⟨quiet, none⟩

def touch (d : Debouncer) (now : Nat) : Debouncer := { d with touched := some now }

def isPending (d : Debouncer) : Bool := d.touched.isSome

/-- The time that is left until a pending change is answered. -/
def remaining (d : Debouncer) (now : Nat) : Option Nat :=
  d.touched.map fun last => last + d.quiet - now

/-- Answers whether a pending change has come to rest. -/
def poll (d : Debouncer) (now : Nat) : Bool × Debouncer :=
  match d.touched with
  | none => (false, d)
  | some last => if d.quiet ≤ now - last then (true, { d with touched := none }) else (false, d)

/-- Answers whether a change is pending, at rest or not. -/
def take (d : Debouncer) : Bool × Debouncer := (d.isPending, { d with touched := none })

end Debouncer

end Flowchart
