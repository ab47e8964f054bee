import Flowchart.Chart.Graph
import Mathlib.Data.List.Basic
import Mathlib.Data.List.TakeDrop

/-! Taking words, numbers and lines off the front of a text. What has been written is taken off
again, whatever follows it. -/
namespace Flowchart.Text

/-- The rest of a text behind a word. -/
def takeWord? (word : String) (text : List Char) : Option (List Char) :=
  word.toList.isPrefixOf? text

/-- The text in front of a word that ends it. -/
def takeLast? (word : String) (text : List Char) : Option (List Char) :=
  word.toList.isSuffixOf? text

def takeNumber? (text : List Char) : Option (Nat × List Char) :=
  let (digits, rest) := text.span Char.isDigit
  if digits.isEmpty then none else some (Nat.ofDigitChars 10 digits 0, rest)

/-- Takes the name of a node, and gives its number. -/
def takeName? (text : List Char) : Option (Nat × List Char) :=
  (takeWord? "node" text).bind takeNumber?

/-- The number in a text that is the name of a node. -/
def readName? (text : String) : Option Nat :=
  match takeName? text.toList with
  | some (n, []) => some n
  | _ => none

/-- Takes pieces for as long as there is one. -/
def takeMany {α : Type} (take? : List Char → Option (α × List Char)) (text : List Char) :
    List α × List Char :=
  match take? text with
  | none => ([], text)
  | some (piece, rest) =>
    if rest.length < text.length then
      let (pieces, rest) := takeMany take? rest
      (piece :: pieces, rest)
    else ([], text)
termination_by text.length

theorem takeWord?_append (word : String) (rest : List Char) :
    takeWord? word (word.toList ++ rest) = some rest :=
  List.isPrefixOf?_eq_some_iff_append_eq.mpr rfl

theorem takeLast?_append (word : String) (front : List Char) :
    takeLast? word (front ++ word.toList) = some front :=
  List.isSuffixOf?_eq_some_iff_append_eq.mpr rfl

/-- A run of characters of one kind ends where another kind begins. -/
theorem span_append {p : Char → Bool} {run rest : List Char} (inside : ∀ c ∈ run, p c)
    (ended : ∀ c ∈ rest.head?, p c = false) : (run ++ rest).span p = (run, rest) := by
  have taken : rest.takeWhile p = [] ∧ rest.dropWhile p = rest := by
    cases rest with
    | nil => exact ⟨rfl, rfl⟩
    | cons c rest => simp [ended c rfl]
  rw [List.span_eq_takeWhile_dropWhile, List.takeWhile_append_of_pos inside,
    List.dropWhile_append_of_pos inside, taken.1, taken.2, List.append_nil]

theorem takeNumber?_append (n : Nat) {rest : List Char}
    (ended : ∀ c ∈ rest.head?, c.isDigit = false) :
    takeNumber? ((toString n).toList ++ rest) = some (n, rest) := by
  have written : (toString n).toList = Nat.toDigits 10 n := by
    rw [Nat.toString_eq_repr, Nat.toList_repr]
  have digits : ∀ c ∈ Nat.toDigits 10 n, c.isDigit := fun c =>
    Nat.isDigit_of_mem_toDigits (by decide) (by decide)
  have some : (Nat.toDigits 10 n).isEmpty = false :=
    List.isEmpty_eq_false_iff.mpr Nat.toDigits_ne_nil
  simp only [takeNumber?, written, span_append digits ended, some, Nat.ofDigitChars_ten_toDigits,
    Bool.false_eq_true, if_false]

theorem takeName?_append (n : Nat) {rest : List Char}
    (ended : ∀ c ∈ rest.head?, c.isDigit = false) :
    takeName? ((nodeId n).toList ++ rest) = some (n, rest) := by
  rw [takeName?, nodeId, String.toList_append, List.append_assoc, takeWord?_append,
    Option.bind_some, takeNumber?_append n ended]

/-- A node's name has letters of one word and digits. -/
theorem not_mem_nodeId {c : Char} (letter : c ∉ "node".toList) (digit : c.isDigit = false) (n : Nat) :
    c ∉ (nodeId n).toList := by
  rw [nodeId, String.toList_append, List.mem_append, Nat.toString_eq_repr, Nat.toList_repr]
  rintro (word | numeral)
  · exact letter word
  · have written := Nat.isDigit_of_mem_toDigits (by decide) (by decide) numeral
    rw [digit] at written
    cases written

theorem readName?_nodeId (n : Nat) : readName? (nodeId n) = some n := by
  have taken : takeName? ((nodeId n).toList ++ []) = some (n, []) := takeName?_append n nofun
  rw [List.append_nil] at taken
  rw [readName?, taken]

section
variable {α β : Type} {take? : List Char → Option (β × List Char)} {write : α → List Char}
  {value : α → β}

/-- Many pieces are taken if each is, and the pieces end where none can be taken. -/
theorem takeMany_flatMap {rest : List Char} (ended : take? rest = none) (pieces : List α)
    (written : ∀ piece ∈ pieces, write piece ≠ [])
    (taken : ∀ piece ∈ pieces, ∀ rest, take? (write piece ++ rest) = some (value piece, rest)) :
    takeMany take? (pieces.flatMap write ++ rest) = (pieces.map value, rest) := by
  induction pieces with
  | nil => rw [List.flatMap_nil, List.nil_append, takeMany, ended, List.map_nil]
  | cons piece pieces ih =>
    have later := ih (fun p member => written p (List.mem_cons_of_mem _ member))
      (fun p member => taken p (List.mem_cons_of_mem _ member))
    have shorter : (pieces.flatMap write ++ rest).length <
        (write piece ++ (pieces.flatMap write ++ rest)).length := by
      have some := List.length_pos_iff.mpr (written piece List.mem_cons_self)
      simp only [List.length_append]
      omega
    rw [List.flatMap_cons, List.append_assoc, takeMany, taken piece List.mem_cons_self]
    simp only [if_pos shorter, later, List.map_cons]

end

/-- Lines with a line break between them, and one behind the last. -/
theorem toList_lines {lines : List String} (some : lines ≠ []) :
    ("\n".intercalate lines).toList ++ ['\n'] = lines.flatMap fun line => line.toList ++ ['\n'] := by
  induction lines with
  | nil => exact absurd rfl some
  | cons line rest ih =>
    cases rest with
    | nil => simp
    | cons next rest =>
      rw [List.flatMap_cons, ← ih (List.cons_ne_nil _ _)]
      simp [String.toList_intercalate]

theorem toList_rows (first : String) (rest : List String) :
    ("\n".intercalate (first :: rest)).toList =
      first.toList ++ rest.flatMap fun line => '\n' :: line.toList := by
  have ended : ("\n".intercalate (first :: rest)).toList ++ ['\n'] =
      first.toList ++ (rest.flatMap fun line => '\n' :: line.toList) ++ ['\n'] := by
    rw [toList_lines (List.cons_ne_nil _ _), List.flatMap_cons, List.append_assoc, List.append_assoc,
      List.append_right_inj]
    induction rest with
    | nil => rfl
    | cons line rest ih => simp [ih]
  exact List.append_cancel_right ended

end Flowchart.Text
