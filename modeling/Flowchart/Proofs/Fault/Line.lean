import Flowchart.Fault
import Flowchart.Proofs.Text.First
import Flowchart.Proofs.Text.Numeral
import Mathlib.Data.List.TakeWhile

/-! Line numbers in messages. The number of the first group decides, and only where there is no group
that of the first label; what a fault writes is read from its message again. -/
namespace Flowchart

open Text

/-- A group `(line:column)` at the front of a text. -/
inductive LineGroup (line : List Char) : List Char → Prop
  | intro {column rest} : Digits line → Digits column →
      LineGroup line ('(' :: (line ++ ':' :: (column ++ ')' :: rest)))

/-- A label `line digits:` at the front of a text, in any case of letters. -/
inductive LineLabel (line : List Char) : List Char → Prop
  | intro {word rest} : word.map Char.toLower = ['l', 'i', 'n', 'e'] → Digits line →
      LineLabel line (word ++ ' ' :: (line ++ ':' :: rest))

def Anywhere (_ : List Char) : Prop := True

def WordEnds (before : List Char) : Prop := ∀ c ∈ before.getLast?, isWord c = false

instance : DecidablePred WordEnds := fun before =>
  decidable_of_iff (before.getLast?.all fun c => !isWord c) (by simp [WordEnds, Option.all_eq_true])

/-- The digits by which a message tells its line. -/
inductive Decides (message digits : List Char) : Prop
  | group : First Anywhere LineGroup message digits → Decides message digits
  | label : ¬ Occurs Anywhere LineGroup message → First WordEnds LineLabel message digits →
      Decides message digits

section Pieces

variable {line column run text rest value : List Char} {sign : Char}

theorem splitDigits_append (digits : Digits run) (ended : isDigit sign = false) :
    splitDigits (run ++ sign :: rest) = (run, sign :: rest) := by
  have head : ∀ c ∈ (sign :: rest).head?, isDigit c = false := by
    rintro _ ⟨⟩
    exact ended
  rw [splitDigits, ← List.span_eq_takeWhile_dropWhile, span_append digits.2 head]

theorem splitDigits_eq (split : splitDigits text = (run, rest)) :
    text = run ++ rest ∧ ∀ c ∈ run, isDigit c := by
  cases split
  exact ⟨List.takeWhile_append_dropWhile.symm, fun c => List.mem_takeWhile_imp⟩

theorem groupAt?_eq_some_iff : groupAt? text = some line ↔ LineGroup line text := by
  constructor
  · intro found
    unfold groupAt? at found
    split at found
    · split at found
      · cases found
      · rename_i text line rest empty first
        obtain ⟨rfl, digits⟩ := splitDigits_eq first
        split at found
        · cases found
        · rename_i column rest empty' second
          obtain ⟨rfl, digits'⟩ := splitDigits_eq second
          cases found
          exact .intro ⟨empty, digits⟩ ⟨empty', digits'⟩
        · cases found
      · cases found
    · cases found
  · rintro @⟨column, rest, first, second⟩
    have one := @splitDigits_append line (column ++ ')' :: rest) ':' first (by decide)
    have two := @splitDigits_append column rest ')' second (by decide)
    obtain ⟨c, line, rfl⟩ := List.exists_cons_of_ne_nil first.1
    obtain ⟨d, column, rfl⟩ := List.exists_cons_of_ne_nil second.1
    simp only [groupAt?, one, two]

theorem labelAt?_eq_some_iff : labelAt? text = some line ↔ LineLabel line text := by
  constructor
  · intro found
    unfold labelAt? at found
    split at found
    · rename_i l i n e text
      split at found
      · rename_i word
        split at found
        · cases found
        · rename_i line rest empty first
          obtain ⟨rfl, digits⟩ := splitDigits_eq first
          cases found
          exact @LineLabel.intro _ [l, i, n, e] rest (by simpa using word) ⟨empty, digits⟩
        · cases found
      · cases found
    · cases found
  · rintro @⟨word, rest, letters, digits⟩
    have taken := @splitDigits_append line rest ':' digits (by decide)
    obtain ⟨c, line, rfl⟩ := List.exists_cons_of_ne_nil digits.1
    obtain ⟨l, i, n, e, rfl⟩ : ∃ l i n e, word = [l, i, n, e] :=
      List.length_eq_four.mp (by simpa using congrArg List.length letters)
    have same : ([l, i, n, e].map Char.toLower == ['l', 'i', 'n', 'e']) = true := by
      simpa using letters
    rw [List.cons_append] at taken
    simp only [labelAt?, List.cons_append, List.nil_append, same, if_true, taken]

theorem not_mem_of_digits {c : Char} (digits : Digits run) (other : isDigit c = false) : c ∉ run :=
  fun member => by simpa [other] using digits.2 c member

theorem eq_of_toLower {c : Char} (lower : c.toLower = 'l') : c = 'l' ∨ c = 'L' := by
  unfold Char.toLower at lower
  split at lower
  · have moved := UInt32.eq_sub_iff_add_eq.mpr (congrArg Char.val lower)
    exact .inr (Char.ext (moved.trans (by decide)))
  · exact .inl lower

theorem separate_group : Separate LineGroup where
  some := nofun
  append rest group := by
    obtain @⟨column, behind, first, second⟩ := group
    simpa using @LineGroup.intro _ column (behind ++ rest) first second
  apart := by
    intro line other text rest group next some
    generalize whole : text ++ rest = both at group
    obtain @⟨column, behind, first, second⟩ := group
    obtain @⟨column', behind', -, -⟩ := next
    have split : text ++ '(' :: (other ++ ':' :: (column' ++ ')' :: behind')) =
        '(' :: (line ++ ':' :: (column ++ [')'])) ++ behind := by simpa using whole
    have outside : '(' ∉ line ++ ':' :: (column ++ [')']) := by
      have sign : isDigit '(' = false := by decide
      simp [not_mem_of_digits first sign, not_mem_of_digits second sign]
    obtain ⟨between, rfl⟩ := append_of_not_mem some split outside
    simpa using @LineGroup.intro line column between first second

theorem separate_label : Separate LineLabel where
  some := by
    intro line label
    generalize none : [] = text at label
    obtain @⟨word, rest, letters, digits⟩ := label
    simp at none
  append rest label := by
    obtain @⟨word, behind, letters, digits⟩ := label
    simpa using @LineLabel.intro _ word (behind ++ rest) letters digits
  apart := by
    intro line other text rest label next some
    generalize whole : text ++ rest = both at label
    obtain @⟨word, behind, letters, digits⟩ := label
    obtain @⟨word', behind', letters', -⟩ := next
    obtain ⟨l, ine, rfl, -, ends⟩ := List.map_eq_cons_iff.mp letters
    obtain ⟨l', ine', rfl, lower, -⟩ := List.map_eq_cons_iff.mp letters'
    have split : text ++ l' :: (ine' ++ ' ' :: (other ++ ':' :: behind')) =
        l :: (ine ++ ' ' :: (line ++ [':'])) ++ behind := by simpa using whole
    have outside : l' ∉ ine ++ ' ' :: (line ++ [':']) := by
      have digit : isDigit l' = false := by
        rcases eq_of_toLower lower with rfl | rfl <;> decide
      have blank : l' ≠ ' ' ∧ l' ≠ ':' := by
        rcases eq_of_toLower lower with rfl | rfl <;> decide
      have letter : l' ∉ ine := by
        intro member
        have lowered := List.mem_map_of_mem (f := Char.toLower) member
        rw [ends, lower] at lowered
        exact absurd lowered (by decide)
      simp [letter, blank, not_mem_of_digits digits digit]
    obtain ⟨between, rfl⟩ := append_of_not_mem some split outside
    simpa using @LineLabel.intro line (l :: ine) between letters digits

end Pieces

section Search

variable {text line : List Char} {message : String}

theorem findGroup?_eq_some_iff :
    findGroup? text = some line ↔ First Anywhere LineGroup text line := by
  induction text with
  | nil => simp [findGroup?, not_first_nil separate_group]
  | cons c rest ih =>
    have shifted : (fun before => Anywhere (c :: before)) = Anywhere := rfl
    rw [findGroup?, Option.or_eq_some_iff, Option.eq_none_iff_forall_ne_some,
      first_cons separate_group, shifted, ih]
    simp [groupAt?_eq_some_iff, Anywhere]

theorem findGroup?_eq_none_iff :
    findGroup? text = none ↔ ¬ Occurs Anywhere LineGroup text :=
  eq_none_iff_not_occurs separate_group fun _ => findGroup?_eq_some_iff

/-- Whether a word goes on behind a text, if `inWord` tells whether one does in front of it. -/
def goesOn (inWord : Bool) (before : List Char) : Bool := before.foldl (fun _ c => isWord c) inWord

theorem findLabel?_eq_first (inWord : Bool) : findLabel? inWord text = some line ↔
    First (fun before => goesOn inWord before = false) LineLabel text line := by
  induction text generalizing inWord with
  | nil => simp [findLabel?, not_first_nil separate_label]
  | cons c rest ih =>
    have shifted : (fun before => goesOn inWord (c :: before) = false) =
        fun before => goesOn (isWord c) before = false := rfl
    rw [findLabel?, Option.or_eq_some_iff, Option.eq_none_iff_forall_ne_some,
      first_cons separate_label, shifted, ih]
    cases inWord <;> simp [labelAt?_eq_some_iff, goesOn]

theorem goesOn_eq_false_iff (before : List Char) : goesOn false before = false ↔ WordEnds before := by
  rcases List.eq_nil_or_concat before with rfl | ⟨front, c, rfl⟩
  · simp [goesOn, WordEnds]
  · simp [goesOn, WordEnds]

theorem findLabel?_eq_some_iff :
    findLabel? false text = some line ↔ First WordEnds LineLabel text line := by
  have free : (fun before => goesOn false before = false) = WordEnds :=
    funext fun before => propext (goesOn_eq_false_iff before)
  rw [findLabel?_eq_first, free]

theorem findLabel?_eq_none_iff :
    findLabel? false text = none ↔ ¬ Occurs WordEnds LineLabel text :=
  eq_none_iff_not_occurs separate_label fun _ => findLabel?_eq_some_iff

instance : DecidablePred (Occurs Anywhere LineGroup) := fun text =>
  decidable_of_iff (findGroup? text ≠ none) (findGroup?_eq_none_iff.not.trans not_not)

instance : DecidablePred (Occurs WordEnds LineLabel) := fun text =>
  decidable_of_iff (findLabel? false text ≠ none) (findLabel?_eq_none_iff.not.trans not_not)

theorem decides_iff : (findGroup? text).or (findLabel? false text) = some line ↔
    Decides text line := by
  rw [Option.or_eq_some_iff, findGroup?_eq_none_iff, findGroup?_eq_some_iff, findLabel?_eq_some_iff]
  exact ⟨fun found => found.elim .group fun label => .label label.1 label.2,
    fun | .group first => .inl first | .label clean first => .inr ⟨clean, first⟩⟩

theorem lineOfMessage?_eq_some_iff {n : Nat} : lineOfMessage? message = some n ↔
    ∃ digits, Decides message.toList digits ∧ Numeral digits (n + 1) ∧ n + 1 < UInt64.size := by
  constructor
  · intro found
    obtain ⟨digits, decides, found⟩ := Option.bind_eq_some_iff.mp found
    obtain ⟨value, read, found⟩ := Option.bind_eq_some_iff.mp found
    cases value with
    | zero => cases found
    | succ line =>
      cases found
      exact ⟨digits, decides_iff.mp decides, readNumber?_eq_some_iff.mp read⟩
  · rintro ⟨digits, decides, numeral⟩
    rw [lineOfMessage?, decides_iff.mpr decides]
    simp [readNumber?_eq_some_iff.mpr numeral]

theorem Decides.unique {one other : List Char} (first : Decides text one)
    (second : Decides text other) : one = other :=
  Option.some.inj ((decides_iff.mpr first).symm.trans (decides_iff.mpr second))

theorem exists_decides_iff : (∃ digits, Decides text digits) ↔
    Occurs Anywhere LineGroup text ∨ Occurs WordEnds LineLabel text := by
  rw [← exists_first_iff separate_group, ← exists_first_iff separate_label]
  constructor
  · rintro ⟨digits, first | ⟨-, first⟩⟩
    · exact .inl ⟨digits, first⟩
    · exact .inr ⟨digits, first⟩
  · intro some
    by_cases group : ∃ digits, First Anywhere LineGroup text digits
    · exact group.imp fun _ => .group
    · have clean := (exists_first_iff separate_group).not.mp group
      exact (some.resolve_left group).imp fun _ => .label clean

end Search

section Recovery

variable {n : Nat}

theorem lineOfMessage?_group {before digits column after : String}
    (clean : ¬ Occurs Anywhere LineGroup before.toList) (numeral : Numeral digits.toList (n + 1))
    (small : n + 1 < UInt64.size) (place : Digits column.toList) :
    lineOfMessage? (before ++ "(" ++ digits ++ ":" ++ column ++ ")" ++ after) = some n := by
  refine lineOfMessage?_eq_some_iff.mpr ⟨digits.toList, .group ?_, numeral, small⟩
  exact ⟨before.toList, _, by simp, trivial, @LineGroup.intro _ _ after.toList numeral.digits place,
    clean⟩

theorem lineOfMessage?_label {before word digits after : String}
    (clean : ¬ Occurs Anywhere LineGroup (before ++ word ++ " " ++ digits ++ ":" ++ after).toList)
    (first : ¬ Occurs WordEnds LineLabel before.toList) (ends : WordEnds before.toList)
    (letters : word.toList.map Char.toLower = ['l', 'i', 'n', 'e'])
    (numeral : Numeral digits.toList (n + 1)) (small : n + 1 < UInt64.size) :
    lineOfMessage? (before ++ word ++ " " ++ digits ++ ":" ++ after) = some n := by
  refine lineOfMessage?_eq_some_iff.mpr ⟨digits.toList, .label clean ?_, numeral, small⟩
  exact ⟨before.toList, _, by simp, ends, @LineLabel.intro _ _ after.toList letters numeral.digits,
    first⟩

theorem not_occurs_of_not_mem {text : List Char} (none : '(' ∉ text) :
    ¬ Occurs Anywhere LineGroup text := by
  rintro ⟨before, rest, line, rfl, -, group⟩
  obtain ⟨-, -⟩ := group
  simp at none

theorem not_mem_toDigits (n : Nat) : '(' ∉ Nat.toDigits 10 n := by
  have digits := (numeral_toString n).digits
  rw [Nat.toString_eq_repr, Nat.toList_repr] at digits
  exact not_mem_of_digits digits (by decide)

theorem lineOfMessage?_tooDeep (limit : Nat) (small : n + 1 < UInt64.size) :
    lineOfMessage? (Fault.tooDeep limit n).message = some n := by
  have worded : (Fault.tooDeep limit n).message = "" ++ "Line" ++ " " ++ toString (n + 1) ++ ":" ++
      (" statements nested deeper than " ++ toString limit ++ " levels") :=
    String.toList_injective (by simp [Fault.message])
  rw [worded]
  refine lineOfMessage?_label (not_occurs_of_not_mem ?_) (by decide) (by decide) (by decide)
    (numeral_toString (n + 1)) small
  simp [not_mem_toDigits]

/-- A line is read from the first group of a message, and if there is none from its first label, where
the digits stand for its number; from all other messages none is read. -/
theorem line_recovered :
    (∀ (before digits column after : String) (n : Nat), ¬ Occurs Anywhere LineGroup before.toList →
      Numeral digits.toList (n + 1) → n + 1 < UInt64.size → Digits column.toList →
      lineOfMessage? (before ++ "(" ++ digits ++ ":" ++ column ++ ")" ++ after) = some n) ∧
    (∀ (before word digits after : String) (n : Nat),
      ¬ Occurs Anywhere LineGroup (before ++ word ++ " " ++ digits ++ ":" ++ after).toList →
      ¬ Occurs WordEnds LineLabel before.toList → WordEnds before.toList →
      word.toList.map Char.toLower = ['l', 'i', 'n', 'e'] → Numeral digits.toList (n + 1) →
      n + 1 < UInt64.size →
      lineOfMessage? (before ++ word ++ " " ++ digits ++ ":" ++ after) = some n) ∧
    (∀ (message : String) (n : Nat), lineOfMessage? message = some n ↔
      ∃ digits, Decides message.toList digits ∧ Numeral digits (n + 1) ∧ n + 1 < UInt64.size) ∧
    (∀ message one other, Decides message one → Decides message other → one = other) ∧
    (∀ message, (∃ digits, Decides message digits) ↔
      Occurs Anywhere LineGroup message ∨ Occurs WordEnds LineLabel message) ∧
    (∀ limit line, line + 1 < UInt64.size → lineOfMessage? (Fault.tooDeep limit line).message =
      (Fault.tooDeep limit line).line?) :=
  ⟨fun _ _ _ _ _ => lineOfMessage?_group, fun _ _ _ _ _ => lineOfMessage?_label,
    fun _ _ => lineOfMessage?_eq_some_iff, fun _ _ _ => Decides.unique,
    fun _ => exists_decides_iff, fun limit _ => lineOfMessage?_tooDeep limit⟩

/-- A group behind a label, with zeros in front and a digit of another script; a label behind one that
a word goes on before; and a number that is none of the digits `0` to `9`. -/
theorem messages_recovered :
    lineOfMessage? "Line 3: odd (b) (007:٣) of (1:1)" = some 6 ∧
      lineOfMessage? "outline 2: at LINE 40: odd" = some 39 ∧
      lineOfMessage? "Line 5: odd (٣:1)" = none ∧
      lineOfMessage? (Fault.tooDeep 256 6).message = some 6 := by
  obtain ⟨group, label, decided, unique, _, deep⟩ := line_recovered
  refine ⟨?_, ?_, ?_, deep 256 6 (by decide)⟩
  · have seven : Numeral "007".toList 7 := ⟨by decide, List.all_eq_true.mp (by decide), by decide⟩
    have three : Digits "٣".toList := ⟨by decide, List.all_eq_true.mp (by decide +kernel)⟩
    exact group "Line 3: odd (b) " "007" "٣" " of (1:1)" 6 (by decide +kernel) seven (by decide) three
  · have forty : Numeral "40".toList 40 := ⟨by decide, List.all_eq_true.mp (by decide), by decide⟩
    exact label "outline 2: at " "LINE" "40" " odd" 39 (by decide +kernel) (by decide +kernel)
      (by decide +kernel) (by decide) forty (by decide)
  · refine Option.eq_none_iff_forall_ne_some.mpr fun n found => ?_
    obtain ⟨digits, decides, numeral, -⟩ := (decided _ n).mp found
    have three : Digits ['٣'] := ⟨by decide, List.all_eq_true.mp (by decide +kernel)⟩
    have one : Digits ['1'] := ⟨by decide, List.all_eq_true.mp (by decide)⟩
    have shown : Decides "Line 5: odd (٣:1)".toList ['٣'] :=
      .group ⟨"Line 5: odd ".toList, "(٣:1)".toList, by decide, trivial,
        @LineGroup.intro _ _ [] three one, by decide +kernel⟩
    cases unique _ _ _ decides shown
    exact absurd (numeral.plain '٣' (by decide)) (by decide)

end Recovery

end Flowchart
