import Flowchart.Proofs.Text.Taking

/-! Where a page takes a text for markup: at a `<` with a letter, a slash, an exclamation mark or a
question mark right behind it. -/
namespace Flowchart.Text

/-- The characters that make markup of a `<` in front of them. Letters are those of ASCII. -/
def beginsMarkup (c : Char) : Bool := c.isAlpha || c == '/' || c == '!' || c == '?'

/-- Markup begins at the front of a text. -/
def isMarkup : List Char → Bool
  | '<' :: c :: _ => beginsMarkup c
  | _ => false

/-- Markup begins in a text behind a front part of it. -/
def MarkupBehind (text front : List Char) : Prop := ∃ rest, text = front ++ rest ∧ isMarkup rest

/-- Two texts without markup across their seam. -/
def Apart (text more : List Char) : Prop :=
  text.getLast? = some '<' → ∀ c ∈ more.head?, beginsMarkup c = false

variable {text more front : List Char} {c : Char}

theorem isMarkup_eq_head (other : c ≠ '<') : isMarkup (c :: text) = false := by
  unfold isMarkup
  split
  · rename_i same
    exact absurd (List.cons.inj same).1 other
  · rfl

theorem isMarkup_pair (c d : Char) (text more : List Char) :
    isMarkup (c :: d :: text) = isMarkup (c :: d :: more) := by
  by_cases same : c = '<'
  · subst same
    rfl
  · rw [isMarkup_eq_head same, isMarkup_eq_head same]

theorem isMarkup_single (c : Char) : isMarkup [c] = false := by
  by_cases same : c = '<'
  · subst same
    rfl
  · exact isMarkup_eq_head same

theorem isMarkup_append (markup : isMarkup text) (more : List Char) : isMarkup (text ++ more) := by
  match text with
  | [] => cases markup
  | [c] =>
    rw [isMarkup_single] at markup
    cases markup
  | c :: d :: text =>
    rw [List.cons_append, List.cons_append, isMarkup_pair c d _ text]
    exact markup

theorem apart_of_not_mem (plain : '<' ∉ text) : Apart text more := by
  intro last
  exact absurd (List.mem_of_getLast? last) plain

theorem apart_of_head (harmless : ∀ c ∈ more.head?, beginsMarkup c = false) : Apart text more :=
  fun _ => harmless

theorem apart_of_last (plain : text.getLast? ≠ some '<') : Apart text more :=
  fun last => absurd last plain

theorem getLast?_flatMap {α : Type} {write : α → List Char} {pieces : List α}
    (plain : ∀ piece ∈ pieces, (write piece).getLast? ≠ some '<') :
    (pieces.flatMap write).getLast? ≠ some '<' := by
  induction pieces with
  | nil => simp
  | cons piece rest ih =>
    have later := ih fun other member => plain other (List.mem_cons_of_mem _ member)
    rw [List.flatMap_cons, List.getLast?_append, Ne, Option.or_eq_some_iff]
    rintro (last | ⟨_, last⟩)
    · exact later last
    · exact plain piece List.mem_cons_self last

theorem not_markupBehind_of_not_mem (plain : '<' ∉ text) : ¬ MarkupBehind text front := by
  rintro ⟨rest, rfl, markup⟩
  cases rest with
  | nil => cases markup
  | cons c rest =>
    have other : c ≠ '<' := fun same => plain (by simp [same])
    rw [isMarkup_eq_head other] at markup
    cases markup

/-- A tag is markup where it opens and nowhere else. -/
theorem markupBehind_tag (begins : isMarkup ('<' :: text)) (plain : '<' ∉ text) :
    MarkupBehind ('<' :: text) front ↔ front = [] := by
  constructor
  · rintro ⟨rest, split, markup⟩
    cases front with
    | nil => rfl
    | cons c front =>
      have inside : MarkupBehind text front := ⟨rest, (List.cons.inj split).2, markup⟩
      exact absurd inside (not_markupBehind_of_not_mem plain)
  · rintro rfl
    exact ⟨_, rfl, begins⟩

/-- Markup in two texts behind each other is markup in one of them. -/
theorem markupBehind_append (apart : Apart text more) :
    MarkupBehind (text ++ more) front ↔
      MarkupBehind text front ∨ ∃ inner, MarkupBehind more inner ∧ front = text ++ inner := by
  constructor
  · rintro ⟨rest, same, markup⟩
    rcases List.append_eq_append_iff.mp same with ⟨inner, rfl, rfl⟩ | ⟨tail, rfl, rfl⟩
    · exact .inr ⟨inner, ⟨rest, rfl, markup⟩, rfl⟩
    · match tail with
      | [] => exact .inr ⟨[], ⟨more, rfl, markup⟩, by simp⟩
      | [c] =>
        -- Markup would stand across the seam.
        cases more with
        | nil => exact .inl ⟨[c], rfl, markup⟩
        | cons d more =>
          by_cases same : c = '<'
          · subst same
            have none := apart (by simp) d rfl
            exact absurd markup (by simp [isMarkup, none])
          · rw [List.singleton_append, isMarkup_eq_head same] at markup
            cases markup
      | c :: d :: tail =>
        rw [List.cons_append, List.cons_append, isMarkup_pair c d _ tail] at markup
        exact .inl ⟨c :: d :: tail, rfl, markup⟩
  · rintro (⟨rest, rfl, markup⟩ | ⟨inner, ⟨rest, rfl, markup⟩, rfl⟩)
    · exact ⟨rest ++ more, by simp, isMarkup_append markup more⟩
    · exact ⟨rest, by simp, markup⟩

theorem markupBehind_flatMap {α : Type} {write : α → List Char} {pieces : List α}
    (plain : ∀ piece ∈ pieces, (write piece).getLast? ≠ some '<') :
    MarkupBehind (pieces.flatMap write) front ↔
      ∃ before piece after inner, pieces = before ++ piece :: after ∧
        MarkupBehind (write piece) inner ∧ front = before.flatMap write ++ inner := by
  induction pieces generalizing front with
  | nil =>
    constructor
    · exact fun markup => absurd markup (not_markupBehind_of_not_mem List.not_mem_nil)
    · rintro ⟨before, piece, after, _, none, _⟩
      simp at none
  | cons first rest ih =>
    have later (inner : List Char) : MarkupBehind (rest.flatMap write) inner ↔ _ :=
      ih fun piece member => plain piece (List.mem_cons_of_mem _ member)
    rw [List.flatMap_cons, markupBehind_append (apart_of_last (plain first List.mem_cons_self))]
    constructor
    · rintro (markup | ⟨tail, behind, rfl⟩)
      · exact ⟨[], first, rest, front, rfl, markup, rfl⟩
      · obtain ⟨before, piece, after, inner, rfl, markup, rfl⟩ := (later tail).mp behind
        exact ⟨first :: before, piece, after, inner, rfl, markup, by simp⟩
    · rintro ⟨before, piece, after, inner, split, markup, rfl⟩
      cases before with
      | nil =>
        cases split
        exact .inl (by simpa using markup)
      | cons _ before =>
        cases split
        exact .inr ⟨_, (later _).mpr ⟨before, piece, after, inner, rfl, markup, rfl⟩, by simp⟩

end Flowchart.Text
