import Flowchart.Text.Blank
import Mathlib.Data.List.TakeWhile

/-! The first word of a text, and what a message keeps of it. -/
namespace Flowchart.Text

/-- `word` is the first of the words of a text that blanks keep apart. -/
structure FirstWord (text word : String) : Prop where
  some : word ≠ ""
  solid : ∀ c ∈ word.toList, isBlank c = false
  first : ∃ gap rest, text = gap ++ word ++ rest ∧ isBlankText gap ∧
    ∀ c ∈ rest.toList.head?, isBlank c

theorem isBlankText_iff {text : String} : isBlankText text ↔ ∀ c ∈ text.toList, isBlank c :=
  List.all_eq_true

theorem firstRun_eq_nil_iff {text : List Char} : firstRun text = [] ↔ ∀ c ∈ text, isBlank c := by
  rw [firstRun, ← List.dropWhile_eq_nil_iff]
  cases tail : text.dropWhile isBlank with
  | nil => simp
  | cons c rest =>
    have solid := List.head_dropWhile_not isBlank (tail ▸ List.cons_ne_nil c rest)
    simp only [tail, List.head_cons] at solid
    simp [solid]

theorem firstWord_firstRun {text : String} (some : firstRun text.toList ≠ []) :
    FirstWord text (String.ofList (firstRun text.toList)) := by
  let tail := text.toList.dropWhile isBlank
  refine ⟨by simpa using some, fun c member => ?_,
    String.ofList (text.toList.takeWhile isBlank),
    String.ofList (tail.dropWhile fun c => !isBlank c), ?_, ?_, fun c head => ?_⟩
  · rw [String.toList_ofList, firstRun] at member
    simpa using List.mem_takeWhile_imp member
  · rw [← String.ofList_append, ← String.ofList_append, List.append_assoc, firstRun,
      List.takeWhile_append_dropWhile, List.takeWhile_append_dropWhile, String.ofList_toList]
  · rw [isBlankText_iff, String.toList_ofList]
    exact fun c => List.mem_takeWhile_imp
  · have ended := List.head?_dropWhile_not (fun c => !isBlank c) tail
    rw [String.toList_ofList, Option.mem_def] at head
    simpa [head] using ended

theorem not_blank_of_firstWord {text word : String} (first : FirstWord text word) :
    ¬ isBlankText text := by
  obtain ⟨gap, rest, rfl, -, -⟩ := first.first
  intro blank
  obtain ⟨c, member⟩ := List.exists_mem_of_ne_nil word.toList (by simpa using first.some)
  have both := isBlankText_iff.mp blank c (by simp [member])
  rw [first.solid c member] at both
  cases both

/-- A blank text has no word. Of the first word of any other text the beginning is kept. -/
theorem firstToken_cases (text : String) :
    (isBlankText text ∧ firstToken text = "end of input") ∨
      ∃ word, FirstWord text word ∧ firstToken text = String.ofList (word.toList.take 24) := by
  unfold firstToken
  split
  · rename_i none
    exact .inl ⟨isBlankText_iff.mpr (firstRun_eq_nil_iff.mp none), rfl⟩
  · rename_i some
    refine .inr ⟨_, firstWord_firstRun some, ?_⟩
    rw [String.toList_ofList, tokenLimit]

end Flowchart.Text
