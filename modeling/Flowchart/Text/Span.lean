/-! Byte ranges of a text. A range names a piece of the text when both its ends fall between
characters. -/
namespace Flowchart

/-- A byte range, `stop` excluded. -/
structure Span where
  start : Nat
  stop : Nat
deriving DecidableEq, Inhabited, Repr

/-- The piece of `source` in the range, if the range lies within it and cuts no character. -/
def Span.slice? (span : Span) (source : String) : Option String :=
  match source.pos? ⟨span.start⟩, source.pos? ⟨span.stop⟩ with
  | some p, some q => if p ≤ q then some (source.extract p q) else none
  | _, _ => none

end Flowchart
