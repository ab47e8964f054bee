/-! Blank characters, and the first word of a text. -/
namespace Flowchart.Text

/-- The characters that Unicode counts as white space. -/
def isBlank (c : Char) : Bool :=
  let n := c.toNat
  (0x09 ≤ n && n ≤ 0x0D) || n == 0x20 || n == 0x85 || n == 0xA0 || n == 0x1680 ||
    (0x2000 ≤ n && n ≤ 0x200A) || n == 0x2028 || n == 0x2029 || n == 0x202F || n == 0x205F ||
    n == 0x3000

/-- The first run of characters that are not blank. -/
def firstRun (text : List Char) : List Char :=
  (text.dropWhile isBlank).takeWhile fun c => !isBlank c

/-- At most so many characters of a text are shown in a message. -/
def tokenLimit : Nat := 24

/-- What a message names of a text: the beginning of its first word. -/
def firstToken (text : String) : String :=
  match firstRun text.toList with
  | [] => "end of input"
  | run => String.ofList (run.take tokenLimit)

/-- Nothing but blanks. -/
def isBlankText (text : String) : Bool := text.toList.all isBlank

end Flowchart.Text
