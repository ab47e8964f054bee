import Flowchart.Text.Span

/-! Ranges that name a piece of a text. -/
namespace Flowchart.Span

/-- A range in a text, with both ends between characters. -/
structure Within (source : String) (span : Span) : Prop where
  ordered : span.start ≤ span.stop
  start : String.Pos.Raw.IsValid source ⟨span.start⟩
  stop : String.Pos.Raw.IsValid source ⟨span.stop⟩

theorem pos?_of_isValid {source : String} {place : String.Pos.Raw} (valid : place.IsValid source) :
    source.pos? place = some (source.pos place valid) := by
  have fits := String.Pos.Raw.isValidForSlice_eq_true_iff.mpr valid.toSlice
  simp only [String.pos?, String.Slice.pos?, fits, dif_pos, Option.map_some]
  rfl

theorem Within.slice_isSome {source : String} {span : Span} (within : span.Within source) :
    (span.slice? source).isSome := by
  have ordered : source.pos ⟨span.start⟩ within.start ≤ source.pos ⟨span.stop⟩ within.stop :=
    within.ordered
  simp only [slice?, pos?_of_isValid within.start, pos?_of_isValid within.stop, if_pos ordered,
    Option.isSome_some]

theorem isValid_of_pos? {source : String} {place : String.Pos.Raw} {p : source.Pos}
    (found : source.pos? place = some p) : place.IsValid source ∧ p.offset = place := by
  simp only [String.pos?, String.Slice.pos?] at found
  split at found
  · rename_i fits
    cases found
    have valid := String.Pos.Raw.isValidForSlice_eq_true_iff.mp fits
    exact ⟨String.Pos.Raw.isValidForSlice_toSlice_iff.mp valid, rfl⟩
  · cases found

/-- The ranges that name a piece of a text are those in it. -/
theorem slice_isSome_iff {source : String} {span : Span} :
    (span.slice? source).isSome ↔ span.Within source := by
  constructor
  · intro piece
    unfold slice? at piece
    split at piece
    · rename_i first last start stop
      obtain ⟨start, first_eq⟩ := isValid_of_pos? start
      obtain ⟨stop, last_eq⟩ := isValid_of_pos? stop
      split at piece
      · rename_i ordered
        have ordered : first.offset ≤ last.offset := ordered
        rw [first_eq, last_eq] at ordered
        exact ⟨ordered, start, stop⟩
      · cases piece
    · cases piece
  · exact Within.slice_isSome

instance (source : String) (span : Span) : Decidable (span.Within source) :=
  decidable_of_iff _ slice_isSome_iff

/-- The text between two cuts of a source, `start` and `stop` bytes behind its beginning. -/
def Reads (source : String) (span : Span) (text : String) : Prop :=
  ∃ front back, source = front ++ text ++ back ∧ front.utf8ByteSize = span.start ∧
    (front ++ text).utf8ByteSize = span.stop

theorem pos?_of_append {source front back : String} (cut : source = front ++ back) :
    ∃ p, source.pos? ⟨front.utf8ByteSize⟩ = some p ∧ p.Splits front back := by
  have valid : String.Pos.Raw.IsValid source ⟨front.utf8ByteSize⟩ :=
    String.Pos.Raw.isValid_iff_exists_append.mpr ⟨front, back, cut, rfl⟩
  exact ⟨_, pos?_of_isValid valid, cut, rfl⟩

theorem slice?_eq_some_iff {source text : String} {span : Span} :
    span.slice? source = some text ↔ span.Reads source text := by
  constructor
  · intro piece
    unfold slice? at piece
    split at piece
    · rename_i p q start stop
      obtain ⟨-, start⟩ := isValid_of_pos? start
      obtain ⟨-, stop⟩ := isValid_of_pos? stop
      split at piece
      · rename_i ordered
        rw [String.extract_eq_copy_slice p q ordered] at piece
        obtain ⟨front, back, first, last⟩ :=
          String.copy_slice_eq_iff_splits.mp ⟨ordered, Option.some.inj piece⟩
        refine ⟨front, back, last.eq_append, ?_, ?_⟩
        · exact congrArg String.Pos.Raw.byteIdx (first.offset_eq_rawEndPos.symm.trans start)
        · exact congrArg String.Pos.Raw.byteIdx (last.offset_eq_rawEndPos.symm.trans stop)
      · cases piece
    · cases piece
  · rintro ⟨front, back, cut, start, stop⟩
    obtain ⟨p, first, before⟩ := pos?_of_append (cut.trans (String.append_assoc ..))
    obtain ⟨q, last, behind⟩ := pos?_of_append cut
    obtain ⟨ordered, copied⟩ := String.copy_slice_eq_iff_splits.mpr ⟨front, back, before, behind⟩
    rw [slice?, ← start, ← stop, first, last]
    simp only [if_pos ordered, String.extract_eq_copy_slice p q ordered, copied]

theorem Within.reads {source : String} {span : Span} (within : span.Within source) :
    ∃ text, span.Reads source text := by
  obtain ⟨text, piece⟩ := Option.isSome_iff_exists.mp within.slice_isSome
  exact ⟨text, slice?_eq_some_iff.mp piece⟩

theorem Reads.unique {source first second : String} {span : Span}
    (one : span.Reads source first) (other : span.Reads source second) : first = second :=
  Option.some.inj ((slice?_eq_some_iff.mpr one).symm.trans (slice?_eq_some_iff.mpr other))

theorem append_of_size_le {front back front' back' : String} (cut : front ++ back = front' ++ back')
    (earlier : front.utf8ByteSize ≤ front'.utf8ByteSize) :
    ∃ between, front' = front ++ between ∧ back = between ++ back' := by
  have same := congrArg String.toList cut
  rw [String.toList_append, String.toList_append, List.append_eq_append_iff] at same
  rcases same with ⟨between, later, rest⟩ | ⟨between, later, rest⟩
  · exact ⟨String.ofList between, String.toList_injective (by simpa using later),
      String.toList_injective (by simpa using rest)⟩
  · have front_eq : front = front' ++ String.ofList between :=
      String.toList_injective (by simpa using later)
    have empty : String.ofList between = "" := by
      rw [front_eq, String.utf8ByteSize_append] at earlier
      exact String.utf8ByteSize_eq_zero_iff.mp (by omega)
    rw [empty, String.append_empty] at front_eq
    subst front_eq
    exact ⟨"", String.append_empty.symm, by simpa [String.append_right_inj] using cut⟩

/-- The text of a range is a piece of the text of a range around it. -/
theorem Reads.inside {source text whole : String} {inner outer : Span}
    (read : inner.Reads source text) (around : outer.Reads source whole)
    (start : outer.start ≤ inner.start) (stop : inner.stop ≤ outer.stop) :
    ∃ before behind, whole = before ++ text ++ behind := by
  obtain ⟨front, back, cut, starts, stops⟩ := read
  obtain ⟨front', back', cut', starts', stops'⟩ := around
  rw [← starts, ← starts'] at start
  rw [← stops, ← stops'] at stop
  obtain ⟨behind, later, -⟩ := append_of_size_le (cut.symm.trans cut') stop
  obtain ⟨before, -, rest⟩ := append_of_size_le (later.trans (String.append_assoc ..)) start
  exact ⟨before, behind, rest.trans (String.append_assoc ..).symm⟩

end Flowchart.Span
