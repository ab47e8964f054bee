import Flowchart.Text.Word

/-! Finding a line number in a message. A group `(line:column)` decides; without one, the first
`line n:` that starts a word does. -/
namespace Flowchart

open Text

/-- Splits off the digits at the front. -/
def splitDigits (text : List Char) : List Char × List Char :=
  (text.takeWhile isDigit, text.dropWhile isDigit)

/-- The line digits of a group `(digits:digits)` at the front. -/
def groupAt? : List Char → Option (List Char)
  | '(' :: text =>
    match splitDigits text with
    | ([], _) => none
    | (line, ':' :: rest) =>
      match splitDigits rest with
      | ([], _) => none
      | (_, ')' :: _) => some line
      | _ => none
    | _ => none
  | _ => none

/-- The line digits of the first group. -/
def findGroup? : List Char → Option (List Char)
  | [] => none
  | c :: rest => (groupAt? (c :: rest)).or (findGroup? rest)

/-- The digits of `line digits:` at the front, in any case of letters. -/
def labelAt? : List Char → Option (List Char)
  | l :: i :: n :: e :: ' ' :: text =>
    if [l, i, n, e].map Char.toLower == ['l', 'i', 'n', 'e'] then
      match splitDigits text with
      | ([], _) => none
      | (line, ':' :: _) => some line
      | _ => none
    else none
  | _ => none

/-- The digits of the first label that no word character precedes. -/
def findLabel? (inWord : Bool) : List Char → Option (List Char)
  | [] => none
  | c :: rest =>
    (if inWord then none else labelAt? (c :: rest)).or (findLabel? (isWord c) rest)

/-- The line a message names, counted from 0. -/
def lineOfMessage? (message : String) : Option Nat := do
  let digits ← (findGroup? message.toList).or (findLabel? false message.toList)
  match ← readNumber? digits with
  | 0 => none
  | line + 1 => some line

end Flowchart
