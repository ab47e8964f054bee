import Mathlib.Data.List.Basic

/-! The first place in a text where a piece of some kind begins. Pieces of a kind that never overlap
come first where none stands in the text before them. -/
namespace Flowchart.Text

/-- `piece value text` says that a text begins with a piece, and what that tells. -/
abbrev Piece := List Char → List Char → Prop

/-- A piece begins behind a text that pieces may begin behind. -/
def Occurs (free : List Char → Prop) (piece : Piece) (text : List Char) : Prop :=
  ∃ before rest value, text = before ++ rest ∧ free before ∧ piece value rest

/-- What a piece tells that has no other in the text before it. -/
def First (free : List Char → Prop) (piece : Piece) (text value : List Char) : Prop :=
  ∃ before rest, text = before ++ rest ∧ free before ∧ piece value rest ∧ ¬ Occurs free piece before

/-- Pieces that are not empty and have no characters in common. -/
structure Separate (piece : Piece) : Prop where
  some {value} : ¬ piece value []
  append {value text} (rest) : piece value text → piece value (text ++ rest)
  apart {value other text rest} : piece value (text ++ rest) → piece other rest → text ≠ [] →
    piece value text

section

variable {free : List Char → Prop} {piece : Piece} {c : Char} {text rest value : List Char}

theorem occurs_cons : Occurs free piece (c :: rest) ↔
    (free [] ∧ ∃ value, piece value (c :: rest)) ∨ Occurs (fun p => free (c :: p)) piece rest := by
  constructor
  · rintro ⟨before, behind, value, split, begins, found⟩
    cases before with
    | nil =>
      cases split
      exact .inl ⟨begins, value, found⟩
    | cons d before =>
      cases split
      exact .inr ⟨before, behind, value, rfl, begins, found⟩
  · rintro (⟨begins, value, found⟩ | ⟨before, behind, value, rfl, begins, found⟩)
    · exact ⟨[], _, value, rfl, begins, found⟩
    · exact ⟨c :: before, behind, value, rfl, begins, found⟩

theorem not_occurs_nil (separate : Separate piece) : ¬ Occurs free piece [] := by
  rintro ⟨before, rest, value, split, -, found⟩
  obtain ⟨-, rfl⟩ := List.append_eq_nil_iff.mp split.symm
  exact separate.some found

theorem first_cons (separate : Separate piece) : First free piece (c :: rest) value ↔
    (free [] ∧ piece value (c :: rest)) ∨
      ((free [] → ∀ other, ¬ piece other (c :: rest)) ∧
        First (fun p => free (c :: p)) piece rest value) := by
  constructor
  · rintro ⟨before, behind, split, begins, found, clean⟩
    cases before with
    | nil =>
      cases split
      exact .inl ⟨begins, found⟩
    | cons d before =>
      cases split
      refine .inr ⟨fun front other here => clean (occurs_cons.mpr (.inl ⟨front, other, ?_⟩)),
        before, behind, rfl, begins, found, fun earlier => clean (occurs_cons.mpr (.inr earlier))⟩
      -- A piece at the front has ended where the one that was found begins.
      have some : c :: before ≠ [] := List.cons_ne_nil c before
      exact @Separate.apart _ separate other value _ behind here found some
  · rintro (⟨begins, found⟩ | ⟨front, before, behind, rfl, begins, found, clean⟩)
    · exact ⟨[], _, rfl, begins, found, not_occurs_nil separate⟩
    · refine ⟨c :: before, behind, rfl, begins, found, fun earlier => ?_⟩
      rcases occurs_cons.mp earlier with ⟨free, other, here⟩ | later
      · exact front free other (separate.append behind here)
      · exact clean later

theorem not_first_nil (separate : Separate piece) : ¬ First free piece [] value := by
  rintro ⟨before, rest, split, begins, found, -⟩
  exact @not_occurs_nil free _ separate ⟨before, rest, value, split, begins, found⟩

theorem exists_first_iff (separate : Separate piece) :
    (∃ value, First free piece text value) ↔ Occurs free piece text := by
  constructor
  · rintro ⟨value, before, rest, split, begins, found, -⟩
    exact ⟨before, rest, value, split, begins, found⟩
  · intro occurs
    induction text generalizing free with
    | nil => exact absurd occurs (not_occurs_nil separate)
    | cons c rest ih =>
      by_cases front : free [] ∧ ∃ value, piece value (c :: rest)
      · obtain ⟨begins, value, found⟩ := front
        exact ⟨value, (first_cons separate).mpr (.inl ⟨begins, found⟩)⟩
      · obtain ⟨value, first⟩ := ih ((occurs_cons.mp occurs).resolve_left front)
        exact ⟨value, (first_cons separate).mpr
          (.inr ⟨fun begins other found => front ⟨begins, other, found⟩, first⟩)⟩

theorem eq_none_iff_not_occurs (separate : Separate piece) {result : Option (List Char)}
    (found : ∀ value, result = some value ↔ First free piece text value) :
    result = none ↔ ¬ Occurs free piece text := by
  rw [← exists_first_iff separate, Option.eq_none_iff_forall_ne_some]
  simp [found]

/-- A piece ends before the next one begins if it has no character inside that those begin with. -/
theorem append_of_not_mem {head : Char} {body behind : List Char} (some : text ≠ [])
    (same : text ++ c :: rest = head :: body ++ behind) (outside : c ∉ body) :
    ∃ between, text = head :: body ++ between := by
  obtain ⟨d, before, rfl⟩ := List.exists_cons_of_ne_nil some
  obtain ⟨rfl, inner⟩ := List.cons.inj same
  rcases List.append_eq_append_iff.mp inner with ⟨tail, rfl, later⟩ | ⟨tail, rfl, -⟩
  · cases tail with
    | nil => exact ⟨[], by simp⟩
    | cons d tail =>
      obtain ⟨rfl, -⟩ := List.cons.inj later
      exact absurd (by simp) outside
  · exact ⟨tail, rfl⟩

end

end Flowchart.Text
