import Flowchart.Text.Digit
import Flowchart.Proofs.Text.Taking

/-! Numbers in texts. A run of plain digits is read as the number that it is written for, if that fits
in 64 bits; zeros in front do not matter. -/
namespace Flowchart.Text

/-- A run of decimal digits of any script. -/
def Digits (run : List Char) : Prop := run ≠ [] ∧ ∀ c ∈ run, isDigit c

/-- A run of the digits `0` to `9` that stands for a number. -/
structure Numeral (run : List Char) (n : Nat) : Prop where
  some : run ≠ []
  plain : ∀ c ∈ run, c.isDigit
  value : Nat.ofDigitChars 10 run 0 = n

theorem isDigit_of_plain {c : Char} (plain : c.isDigit) : isDigit c := by
  have bounds : 48 ≤ c.toNat ∧ c.toNat ≤ 57 := Char.isDigit_iff_toNat.mp plain
  simp [isDigit, inRanges, digitRanges, bounds]

theorem digitsValue_eq (run : List Char) : digitsValue run = Nat.ofDigitChars 10 run 0 := rfl

theorem Numeral.digits {run : List Char} {n : Nat} (numeral : Numeral run n) : Digits run :=
  ⟨numeral.some, fun c member => isDigit_of_plain (numeral.plain c member)⟩

theorem readNumber?_eq_some_iff {run : List Char} {n : Nat} :
    readNumber? run = some n ↔ Numeral run n ∧ n < UInt64.size := by
  constructor
  · intro read
    unfold readNumber? at read
    split at read
    · rename_i checked
      cases read
      simp only [Bool.and_eq_true, decide_eq_true_eq, List.all_eq_true] at checked
      obtain ⟨⟨some, plain⟩, small⟩ := checked
      exact ⟨⟨by simpa using some, plain, rfl⟩, small⟩
    · cases read
  · rintro ⟨⟨some, plain, rfl⟩, small⟩
    have all : run.all isPlainDigit := List.all_eq_true.mpr plain
    have front : (!run.isEmpty) = true := by simpa using some
    rw [readNumber?, digitsValue_eq, front, all, decide_eq_true small]
    rfl

theorem numeral_toString (n : Nat) : Numeral (toString n).toList n := by
  rw [Nat.toString_eq_repr, Nat.toList_repr]
  exact ⟨Nat.toDigits_ne_nil, fun c => Nat.isDigit_of_mem_toDigits (by decide) (by decide),
    Nat.ofDigitChars_ten_toDigits⟩

end Flowchart.Text
