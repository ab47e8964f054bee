import Flowchart.Proofs.Text.Markup

/-! What a page reads of a text. It reads up to the first markup; on the way it puts what is meant for
each character reference, reads every line break as one character and leaves out null characters. -/
namespace Flowchart.Text

/-- How a page resolves character references. From what stands behind an ampersand, `resolve` finds the
text that is meant and how many characters the reference takes there. These are no fewer than those of
the text, and no reference goes on behind a double quote. -/
structure References where
  resolve : List Char → Option (List Char × Nat)
  inside : ∀ {rest text n}, resolve rest = some (text, n) → n ≤ rest.length ∧ text.length ≤ n
  ends : ∀ front more, resolve (front ++ '"' :: more) = resolve front

/-- What a page reads for a character, and how many of those behind belong to it. -/
def readChar (refs : References) (c : Char) (rest : List Char) : List Char × Nat :=
  if c = '&' then (refs.resolve rest).getD (['&'], 0)
  else if c = '\r' then (['\n'], if rest.head? = some '\n' then 1 else 0)
  else if c = '\x00' then ([], 0)
  else ([c], 0)

/-- What a page reads as text, and the rest from the first markup on, if `skip` characters at the front
belong to what was read before. -/
def readPage (refs : References) : Nat → List Char → List Char × List Char
  | _, [] => ([], [])
  | skip + 1, _ :: rest => readPage refs skip rest
  | 0, c :: rest =>
    if isMarkup (c :: rest) then ([], c :: rest)
    else
      ((readChar refs c rest).1 ++ (readPage refs (readChar refs c rest).2 rest).1,
        (readPage refs (readChar refs c rest).2 rest).2)

/-- A page reads a text as it stands if `more` stands behind it. -/
def Inert (refs : References) (text more : List Char) : Prop :=
  ∀ front c rest, text = front ++ c :: rest →
    isMarkup (c :: (rest ++ more)) = false ∧ readChar refs c (rest ++ more) = ([c], 0)

/-- A text has nothing in it that a page reads in another way. -/
structure Literal (refs : References) (text : List Char) : Prop where
  plain : ∀ front, ¬ MarkupBehind text front
  unreferred : ∀ front rest, text = front ++ '&' :: rest → refs.resolve rest = none
  unreturned : '\r' ∉ text
  unnulled : '\x00' ∉ text

/-- What has no quote in it does not reach over one. -/
theorem prefix_quoted {word front more : List Char} (unquoted : '"' ∉ word) :
    word <+: front ++ '"' :: more ↔ word <+: front := by
  constructor
  · intro begins
    rcases Nat.lt_or_ge front.length word.length with beyond | within
    · have quoted : front ++ ['"'] <+: word := by
        refine List.prefix_of_prefix_length_le ⟨more, by simp⟩ begins ?_
        rw [List.length_append, List.length_singleton]
        exact beyond
      exact absurd (quoted.subset (by simp)) unquoted
    · exact List.prefix_of_prefix_length_le begins (List.prefix_append _ _) within
  · exact fun begins => begins.trans (List.prefix_append _ _)

/-- A page that knows one reference. -/
def References.single (word meaning : List Char) (unquoted : '"' ∉ word)
    (longer : meaning.length ≤ word.length) : References where
  resolve rest := if word.isPrefixOf rest then some (meaning, word.length) else none
  inside := by
    intro rest text n found
    split at found
    · rename_i begins
      cases found
      exact ⟨(List.isPrefixOf_iff_prefix.mp begins).length_le, longer⟩
    · cases found
  ends := by
    intro front more
    simp only [List.isPrefixOf_iff_prefix, prefix_quoted unquoted]

variable {refs : References} {text more front rest : List Char} {c : Char} {skip : Nat}

theorem readChar_cases (refs : References) (c : Char) (rest : List Char) :
    (readChar refs c rest).2 ≤ rest.length ∧
      (readChar refs c rest = ([c], 0) ∨
        (readChar refs c rest).1.length ≤ (readChar refs c rest).2 ∨
        c = '\r' ∧ (readChar refs c rest).1 = ['\n']) := by
  unfold readChar
  split
  · rename_i reference
    cases found : refs.resolve rest with
    | none => exact ⟨Nat.zero_le _, .inl (by rw [reference]; rfl)⟩
    | some resolved =>
      obtain ⟨fits, shorter⟩ := refs.inside found
      exact ⟨fits, .inr (.inl shorter)⟩
  · split
    · rename_i back
      refine ⟨?_, .inr (.inr ⟨back, rfl⟩)⟩
      cases rest with
      | nil => simp
      | cons d rest =>
        dsimp only
        split <;> simp
    · split
      · exact ⟨Nat.zero_le _, .inr (.inl (Nat.le_refl _))⟩
      · exact ⟨Nat.zero_le _, .inl rfl⟩

theorem length_readChar_le (refs : References) (c : Char) (rest : List Char) :
    (readChar refs c rest).1.length ≤ (readChar refs c rest).2 + 1 := by
  obtain ⟨_, same | shorter | ⟨_, line⟩⟩ := readChar_cases refs c rest
  · simp [same]
  · omega
  · simp [line]

theorem length_readPage_le (refs : References) (fits : skip ≤ text.length) :
    (readPage refs skip text).1.length + (readPage refs skip text).2.length + skip ≤ text.length := by
  fun_induction readPage refs skip text with
  | case1 skip => simpa using fits
  | case2 skip c rest ih =>
    have := ih (by simpa using fits)
    rw [List.length_cons]
    omega
  | case3 c rest markup => simp
  | case4 c rest plain ih =>
    have piece := length_readChar_le refs c rest
    have later := ih (readChar_cases refs c rest).1
    simp only [List.length_append, List.length_cons]
    omega

theorem inert_nil (refs : References) (more : List Char) : Inert refs [] more := by
  intro front c rest split
  simp at split

theorem inert_cons : Inert refs (c :: text) more ↔
    (isMarkup (c :: (text ++ more)) = false ∧ readChar refs c (text ++ more) = ([c], 0)) ∧
      Inert refs text more := by
  constructor
  · intro inert
    refine ⟨inert [] c text rfl, fun front d rest split => inert (c :: front) d rest ?_⟩
    rw [split, List.cons_append]
  · rintro ⟨here, later⟩ front d rest split
    cases front with
    | nil =>
      cases split
      exact here
    | cons _ front => exact later front d rest (List.cons.inj split).2

theorem inert_append {behind : List Char} :
    Inert refs (text ++ more) behind ↔ Inert refs text (more ++ behind) ∧ Inert refs more behind := by
  induction text with
  | nil => exact ⟨fun inert => ⟨inert_nil _ _, inert⟩, And.right⟩
  | cons c text ih =>
    rw [List.cons_append, inert_cons, inert_cons, ih, List.append_assoc, ← and_assoc]

theorem inert_flatMap {α : Type} {write : α → List Char} {fine : α → Prop} {pieces : List α}
    (each : ∀ piece ∈ pieces, ∀ more, Inert refs (write piece) more ↔ fine piece)
    (more : List Char) : Inert refs (pieces.flatMap write) more ↔ ∀ piece ∈ pieces, fine piece := by
  induction pieces with
  | nil => simp [inert_nil]
  | cons piece rest ih =>
    rw [List.flatMap_cons, inert_append, each piece List.mem_cons_self,
      ih fun other member => each other (List.mem_cons_of_mem _ member), List.forall_mem_cons]

/-- The characters that a page may read in another way, with what stands behind them. -/
def signs : List Char := ['<', '&', '\r', '\x00']

theorem inert_of_solid (solid : ∀ c ∈ signs, c ∉ text) : Inert refs text more := by
  intro front c rest split
  have other : ∀ d ∈ signs, c ≠ d := by
    rintro d sign rfl
    exact solid c sign (by simp [split])
  simp only [signs, List.forall_mem_cons] at other
  obtain ⟨bracket, ampersand, back, null, _⟩ := other
  exact ⟨isMarkup_eq_head bracket, by simp [readChar, ampersand, back, null]⟩

/-- A page reads a text in double quotes as it stands exactly if nothing in it is read in another
way. -/
theorem inert_quoted : Inert refs text ('"' :: more) ↔ Literal refs text := by
  constructor
  · intro inert
    have same {c : Char} (member : c ∈ text) :
        ∃ rest, readChar refs c (rest ++ '"' :: more) = ([c], 0) := by
      obtain ⟨front, rest, split⟩ := List.append_of_mem member
      exact ⟨rest, (inert front c rest split).2⟩
    refine ⟨?_, ?_, ?_, ?_⟩
    · rintro front ⟨rest, split, markup⟩
      cases rest with
      | nil => cases markup
      | cons c rest =>
        have plain := (inert front c rest split).1
        rw [← List.cons_append, isMarkup_append markup] at plain
        cases plain
    · intro front rest split
      have read := (inert front '&' rest split).2
      rw [readChar, if_pos rfl, refs.ends] at read
      cases found : refs.resolve rest with
      | none => rfl
      | some resolved =>
        have shorter := (refs.inside found).2
        rw [found, Option.getD_some] at read
        simp [read] at shorter
    · intro member
      obtain ⟨rest, read⟩ := same member
      simp [readChar] at read
    · intro member
      obtain ⟨rest, read⟩ := same member
      simp [readChar] at read
  · intro literal front c rest split
    have here : c ∈ text := by simp [split]
    constructor
    · cases markup : isMarkup (c :: (rest ++ '"' :: more)) with
      | false => rfl
      | true =>
        have begins : isMarkup (c :: rest) := by
          cases rest with
          | nil =>
            -- No markup begins with a quote.
            by_cases bracket : c = '<'
            · subst bracket
              cases markup
            · rw [isMarkup_eq_head bracket] at markup
              cases markup
          | cons d rest => rwa [List.cons_append, isMarkup_pair c d _ rest] at markup
        exact absurd ⟨c :: rest, split, begins⟩ (literal.plain front)
    · by_cases reference : c = '&'
      · subst reference
        rw [readChar, if_pos rfl, refs.ends, literal.unreferred front rest split, Option.getD_none]
      · have back : c ≠ '\r' := fun same => literal.unreturned (same ▸ here)
        have null : c ≠ '\x00' := fun same => literal.unnulled (same ▸ here)
        simp [readChar, reference, back, null]

theorem readPage_cons (plain : isMarkup (c :: rest) = false) (read : readChar refs c rest = ([c], 0)) :
    readPage refs 0 (c :: rest) = (c :: (readPage refs 0 rest).1, (readPage refs 0 rest).2) := by
  rw [readPage, plain, read]
  rfl

/-- A text that is read as it stands is read up to the markup behind it. -/
theorem readPage_inert (inert : Inert refs text more) (markup : isMarkup more) :
    readPage refs 0 (text ++ more) = (text, more) := by
  induction text with
  | nil =>
    cases more with
    | nil => cases markup
    | cons c more => rw [List.nil_append, readPage, if_pos markup]
  | cons c text ih =>
    obtain ⟨⟨plain, read⟩, later⟩ := inert_cons.mp inert
    rw [List.cons_append, readPage_cons plain read, ih later]

/-- If nothing is lost or added in reading, each character is read as it stands. -/
theorem inert_readPage (refs : References) (text : List Char)
    (whole : (readPage refs 0 text).1 ++ (readPage refs 0 text).2 = text) :
    Inert refs (readPage refs 0 text).1 (readPage refs 0 text).2 := by
  induction text with
  | nil => exact inert_nil _ _
  | cons c rest ih =>
    by_cases markup : isMarkup (c :: rest)
    · rw [readPage, if_pos markup]
      exact inert_nil _ _
    have plain := Bool.eq_false_iff.mpr markup
    obtain ⟨fits, read | shorter | ⟨back, line⟩⟩ := readChar_cases refs c rest
    · rw [readPage_cons plain read] at whole ⊢
      have later : (readPage refs 0 rest).1 ++ (readPage refs 0 rest).2 = rest :=
        (List.cons.inj whole).2
      exact inert_cons.mpr ⟨later.symm ▸ ⟨plain, read⟩, ih later⟩
    · -- A reference is longer than what it means, and nothing behind it makes up for that.
      rw [readPage, if_neg markup] at whole
      have size := congrArg List.length whole
      have bound := length_readPage_le refs fits
      simp only [List.length_append, List.length_cons] at size
      omega
    · rw [readPage, if_neg markup, line, back] at whole
      cases (List.cons.inj whole).1

end Flowchart.Text
