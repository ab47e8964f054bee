import Flowchart.Proofs.Text.Span
import Flowchart.Proofs.Walk.Plan

/-! The pieces of a script that labels show. A range names the piece between two cuts of the script,
and none if it runs backwards or past the end, or if one of its ends lies inside a character. -/
namespace Flowchart

/-- A place in a text, counted in bytes, with a part of one character on either side. -/
def SplitsCharacter (source : String) (place : Nat) : Prop :=
  ∃ front c back, source = front ++ String.singleton c ++ back ∧ front.utf8ByteSize < place ∧
    place < front.utf8ByteSize + c.utf8Size

section Places

variable {source : String} {place : Nat}

theorem SplitsCharacter.push (splits : SplitsCharacter source place) (last : Char) :
    SplitsCharacter (source.push last) place := by
  obtain ⟨front, c, back, cut, after, before⟩ := splits
  refine ⟨front, c, back.push last, ?_, after, before⟩
  rw [cut, String.push_eq_append, String.push_eq_append, String.append_assoc]

theorem isValid_or_splits (inside : place ≤ source.utf8ByteSize) :
    String.Pos.Raw.IsValid source ⟨place⟩ ∨ SplitsCharacter source place := by
  induction source using String.push_induction with
  | empty =>
    cases Nat.le_zero.mp inside
    exact .inl String.Pos.Raw.isValid_zero
  | push source last ih =>
    rw [String.utf8ByteSize_push] at inside
    by_cases earlier : place ≤ source.utf8ByteSize
    · rcases ih earlier with valid | splits
      · exact .inl (String.Pos.Raw.isValid_push.mpr (.inl valid))
      · exact .inr (splits.push last)
    · rcases Nat.lt_or_eq_of_le inside with before | rfl
      · refine .inr ⟨source, last, "", ?_, by omega, before⟩
        rw [String.append_empty, String.push_eq_append]
      · exact .inl (String.Pos.Raw.isValid_push.mpr (.inr rfl))

theorem size_of_split_singleton {c : Char} {before behind : String}
    (split : String.singleton c = before ++ behind) :
    before.utf8ByteSize = 0 ∨ before.utf8ByteSize = c.utf8Size := by
  have one := congrArg String.toList split
  rw [String.toList_singleton, String.toList_append, eq_comm, List.append_eq_singleton_iff] at one
  rcases one with ⟨nothing, -⟩ | ⟨all, -⟩
  · cases String.toList_eq_nil_iff.mp nothing
    exact .inl rfl
  · cases String.toList_injective (all.trans (String.toList_singleton c).symm)
    exact .inr String.utf8ByteSize_singleton

theorem SplitsCharacter.not_isValid (splits : SplitsCharacter source place) :
    ¬ String.Pos.Raw.IsValid source ⟨place⟩ := by
  intro valid
  obtain ⟨front, c, back, cut, after, before⟩ := splits
  obtain ⟨front', back', cut', ends⟩ := String.Pos.Raw.isValid_iff_exists_append.mp valid
  have size : front'.utf8ByteSize = place := (congrArg String.Pos.Raw.byteIdx ends).symm
  rw [cut, String.append_assoc] at cut'
  obtain ⟨begun, rfl, rest⟩ := Span.append_of_size_le cut' (by omega)
  rw [String.utf8ByteSize_append] at size
  have short : begun.utf8ByteSize ≤ (String.singleton c).utf8ByteSize := by
    rw [String.utf8ByteSize_singleton]
    omega
  obtain ⟨missing, split, -⟩ := Span.append_of_size_le rest.symm short
  -- The part of the character in front of the cut is neither nothing nor all of it.
  rcases size_of_split_singleton split with nothing | all <;> omega

/-- A place in a text lies between two characters or inside one. -/
theorem isValid_iff_not_splits : String.Pos.Raw.IsValid source ⟨place⟩ ↔
    place ≤ source.utf8ByteSize ∧ ¬ SplitsCharacter source place := by
  constructor
  · intro valid
    exact ⟨valid.le_rawEndPos, fun splits => splits.not_isValid valid⟩
  · rintro ⟨inside, whole⟩
    exact (isValid_or_splits inside).resolve_right whole

end Places

namespace Span

variable {source first second : String} {span : Span} {a b c : Nat}

theorem exists_reads_iff : (∃ piece, span.Reads source piece) ↔ span.Within source := by
  constructor
  · rintro ⟨piece, reads⟩
    exact slice_isSome_iff.mp (Option.isSome_iff_exists.mpr ⟨piece, slice?_eq_some_iff.mpr reads⟩)
  · exact Within.reads

theorem within_iff : span.Within source ↔ span.start ≤ span.stop ∧
    span.stop ≤ source.utf8ByteSize ∧ ¬ SplitsCharacter source span.start ∧
    ¬ SplitsCharacter source span.stop := by
  constructor
  · rintro ⟨ordered, start, stop⟩
    obtain ⟨-, start⟩ := isValid_iff_not_splits.mp start
    obtain ⟨inside, stop⟩ := isValid_iff_not_splits.mp stop
    exact ⟨ordered, inside, start, stop⟩
  · rintro ⟨ordered, inside, start, stop⟩
    exact ⟨ordered, isValid_iff_not_splits.mpr ⟨Nat.le_trans ordered inside, start⟩,
      isValid_iff_not_splits.mpr ⟨inside, stop⟩⟩

/-- What keeps a range from naming a piece of a text. -/
theorem not_exists_reads_iff : (¬ ∃ piece, span.Reads source piece) ↔ span.stop < span.start ∨
    source.utf8ByteSize < span.stop ∨ SplitsCharacter source span.start ∨
    SplitsCharacter source span.stop := by
  rw [exists_reads_iff, within_iff]
  simp only [Classical.not_and_iff_not_or_not, Classical.not_not, Nat.not_le]

/-- Pieces that meet make up the piece of the range over both. -/
theorem Reads.append (one : Reads source ⟨a, b⟩ first) (other : Reads source ⟨b, c⟩ second) :
    Reads source ⟨a, c⟩ (first ++ second) := by
  obtain ⟨front, back, cut, start, stop⟩ := one
  obtain ⟨front', back', cut', start', stop'⟩ := other
  have meet : front ++ first ++ back = front' ++ (second ++ back') := by
    rw [← cut, cut', String.append_assoc]
  obtain ⟨between, same, -⟩ := append_of_size_le meet (by simp only [stop, start']; omega)
  have nothing : between = "" := by
    have size := congrArg String.utf8ByteSize same
    rw [String.utf8ByteSize_append, stop, start'] at size
    exact String.utf8ByteSize_eq_zero_iff.mp (by simpa using size)
  rw [nothing, String.append_empty] at same
  subst same
  have joined : front ++ first ++ second = front ++ (first ++ second) := String.append_assoc
  rw [joined] at cut' stop'
  exact ⟨front, back', cut', start, stop'⟩

end Span

namespace Walk

variable {source : String} {g : Graph} {span : Span}

theorem outcome_text (source : String) (span : Span) (g : Graph) :
    (text source span).outcome g = match span.slice? source with
      | some piece => (.ok piece, g)
      | none => (.error (.outside span source.utf8ByteSize), g) := by
  unfold text outcome
  cases span.slice? source <;> rfl

theorem text_ok_iff {piece : String} {g' : Graph} :
    (text source span).outcome g = (.ok piece, g') ↔ span.Reads source piece ∧ g' = g := by
  rw [outcome_text, ← Span.slice?_eq_some_iff]
  cases span.slice? source with
  | some found => simp [eq_comm]
  | none => simp

theorem text_error_iff {fault : WalkFault} {g' : Graph} :
    (text source span).outcome g = (.error fault, g') ↔
      (¬ ∃ piece, span.Reads source piece) ∧ fault = .outside span source.utf8ByteSize ∧
        g' = g := by
  rw [outcome_text, Span.exists_reads_iff, ← Span.slice_isSome_iff]
  cases span.slice? source with
  | some found => simp
  | none => simp [eq_comm]

/-- A range is answered by the text between the two cuts of the script that it names. Where there are
no such cuts, and that for one of four reasons, the fault tells the range and the size of the script.
The pieces of ranges that meet make up that of the range over both. -/
theorem text_reads (source : String) (g : Graph) :
    (∀ (span : Span) piece g', (text source span).outcome g = (.ok piece, g') ↔
      span.Reads source piece ∧ g' = g) ∧
    (∀ (span : Span) fault g', (text source span).outcome g = (.error fault, g') ↔
      (¬ ∃ piece, span.Reads source piece) ∧ fault = .outside span source.utf8ByteSize ∧ g' = g) ∧
    (∀ span : Span, (¬ ∃ piece, span.Reads source piece) ↔ span.stop < span.start ∨
      source.utf8ByteSize < span.stop ∨ SplitsCharacter source span.start ∨
      SplitsCharacter source span.stop) ∧
    ∀ a b c first second, (text source ⟨a, b⟩).outcome g = (.ok first, g) →
      (text source ⟨b, c⟩).outcome g = (.ok second, g) →
      (text source ⟨a, c⟩).outcome g = (.ok (first ++ second), g) := by
  refine ⟨fun _ _ _ => text_ok_iff, fun _ _ _ => text_error_iff,
    fun _ => Span.not_exists_reads_iff, ?_⟩
  intro a b c first second one other
  obtain ⟨one, -⟩ := text_ok_iff.mp one
  obtain ⟨other, -⟩ := text_ok_iff.mp other
  exact text_ok_iff.mpr ⟨one.append other, rfl⟩

/-- The name and the sign of `let é = 1;`, the first half of the name, a range that runs backwards and
one that runs past the end. -/
theorem accent_reads :
    (text "let é = 1;" ⟨4, 6⟩).outcome .empty = (.ok "é", .empty) ∧
      (text "let é = 1;" ⟨6, 9⟩).outcome .empty = (.ok " = ", .empty) ∧
      (text "let é = 1;" ⟨4, 9⟩).outcome .empty = (.ok "é = ", .empty) ∧
      (text "let é = 1;" ⟨4, 5⟩).outcome .empty = (.error (.outside ⟨4, 5⟩ 11), .empty) ∧
      (text "let é = 1;" ⟨6, 4⟩).outcome .empty = (.error (.outside ⟨6, 4⟩ 11), .empty) ∧
      (text "let é = 1;" ⟨4, 40⟩).outcome .empty = (.error (.outside ⟨4, 40⟩ 11), .empty) := by
  obtain ⟨reads, refused, unread, joined⟩ := text_reads "let é = 1;" .empty
  have name : (text "let é = 1;" ⟨4, 6⟩).outcome .empty = (.ok "é", .empty) :=
    (reads _ _ _).mpr ⟨⟨"let ", " = 1;", by decide, by decide, by decide⟩, rfl⟩
  have sign : (text "let é = 1;" ⟨6, 9⟩).outcome .empty = (.ok " = ", .empty) :=
    (reads _ _ _).mpr ⟨⟨"let é", "1;", by decide, by decide, by decide⟩, rfl⟩
  have half : SplitsCharacter "let é = 1;" 5 :=
    ⟨"let ", 'é', " = 1;", by decide, by decide, by decide⟩
  refine ⟨name, sign, joined 4 6 9 _ _ name sign, ?_, ?_, ?_⟩
  · exact (refused _ _ _).mpr ⟨(unread _).mpr (.inr (.inr (.inr half))), rfl, rfl⟩
  · exact (refused _ _ _).mpr ⟨(unread _).mpr (.inl (by decide)), rfl, rfl⟩
  · exact (refused _ _ _).mpr ⟨(unread _).mpr (.inr (.inl (by decide))), rfl, rfl⟩

end Walk

end Flowchart
