import Flowchart.Proofs.Json.Grammar
import Flowchart.Proofs.Text.Taking

/-! A text that is JSON has one meaning. -/
namespace Flowchart.Json

/-- A text that goes on with something else than a blank. -/
def Solid (s : List Char) : Prop := ∀ c ∈ s.head?, isBlank c = false

theorem solid_cons {c : Char} {s : List Char} (solid : isBlank c = false) : Solid (c :: s) := by
  rintro _ ⟨⟩
  exact solid

/-- Blanks are taken up to the first character that is none. -/
theorem Blanks.unique {s t t' : List Char} (blanks : Blanks s t) (other : Blanks s t')
    (solid : Solid t) (solid' : Solid t') : t = t' := by
  induction blanks with
  | none =>
    cases other with
    | none => rfl
    | one blank _ => exact absurd blank (by simp [solid _ rfl])
  | one blank _ ih =>
    cases other with
    | none => exact absurd blank (by simp [solid' _ rfl])
    | one _ more => exact ih more solid

theorem Letter.unique {s t t' : List Char} {c c' : Char} (letter : Letter s c t)
    (other : Letter s c' t') : c = c' ∧ t = t' := by
  have noLetter : shortEscape? 'u' = .none := by decide
  cases letter with
  | plain printed quote backslash =>
    cases other with
    | plain => exact ⟨rfl, rfl⟩
    | short | unit | pair => exact absurd rfl backslash
  | short named =>
    cases other with
    | plain _ _ backslash => exact absurd rfl backslash
    | short named' => exact ⟨Option.some.inj (named.symm.trans named'), rfl⟩
    | unit | pair => exact absurd (noLetter.symm.trans named) nofun
  | unit written single =>
    cases other with
    | plain _ _ backslash => exact absurd rfl backslash
    | short named => exact absurd (noLetter.symm.trans named) nofun
    | unit written' => cases written.symm.trans written'; exact ⟨rfl, rfl⟩
    | pair high first => cases written.symm.trans high; omega
  | pair high first low second =>
    cases other with
    | plain _ _ backslash => exact absurd rfl backslash
    | short named => exact absurd (noLetter.symm.trans named) nofun
    | unit written single => cases high.symm.trans written; omega
    | pair high' _ low' =>
      cases high.symm.trans high'
      cases low.symm.trans low'
      exact ⟨rfl, rfl⟩

/-- No character of a string begins with the closing quote. -/
theorem not_letter_quote {s t : List Char} {c : Char} : ¬ Letter ('"' :: s) c t := by
  intro letter
  cases letter with
  | plain _ quote _ => exact quote rfl

theorem Letters.unique {s cs cs' rest rest' : List Char} (letters : Letters s cs rest)
    (other : Letters s cs' rest') : cs = cs' ∧ rest = rest' := by
  induction letters generalizing cs' with
  | close =>
    cases other with
    | close => exact ⟨rfl, rfl⟩
    | letter first _ => exact absurd first not_letter_quote
  | letter first _ ih =>
    cases other with
    | close => exact absurd first not_letter_quote
    | letter first' more' =>
      obtain ⟨rfl, rfl⟩ := first.unique first'
      obtain ⟨rfl, rfl⟩ := ih more'
      exact ⟨rfl, rfl⟩

/-- The characters that a number is written with. -/
def isNumeral (c : Char) : Bool :=
  c.isDigit || c == '-' || c == '+' || c == '.' || c == 'e' || c == 'E'

def Ends (s : List Char) : Prop := ∀ c ∈ s.head?, isNumeral c = false

theorem ends_nil : Ends [] := nofun

theorem ends_cons {c : Char} {s : List Char} (ends : isNumeral c = false) : Ends (c :: s) := by
  rintro _ ⟨⟩
  exact ends

theorem IsNumber.numerals {w : List Char} (shape : IsNumber w) : ∀ c ∈ w, isNumeral c := by
  obtain ⟨sign, whole, fraction, exponent, signed, ⟨digits, _⟩, pointed, scaled, rfl⟩ := shape
  have numeral {c : Char} (digit : c.isDigit) : isNumeral c := by simp [isNumeral, digit]
  intro c member
  simp only [List.mem_append] at member
  rcases member with ((member | member) | member) | member
  · rcases signed with rfl | rfl
    · cases member
    · cases List.mem_singleton.mp member; rfl
  · exact numeral (digits.2 c member)
  · rcases pointed with rfl | ⟨digits, all, rfl⟩
    · cases member
    · rcases List.mem_cons.mp member with rfl | member
      · rfl
      · exact numeral (all.2 c member)
  · rcases scaled with rfl | ⟨mark, sign, digits, marked, signed, all, rfl⟩
    · cases member
    · rcases List.mem_cons.mp member with rfl | member
      · rcases marked with rfl | rfl <;> rfl
      · rcases List.mem_append.mp member with member | member
        · rcases signed with rfl | rfl | rfl
          · cases member
          all_goals cases List.mem_singleton.mp member; rfl
        · exact numeral (all.2 c member)

/-- A number begins with a digit or with its sign. -/
def startsNumber (c : Char) : Bool := c.isDigit || c == '-'

theorem IsNumber.starts {w s rest : List Char} {c : Char} (shape : IsNumber w)
    (split : c :: s = w ++ rest) : startsNumber c := by
  obtain ⟨sign, whole, fraction, exponent, signed, ⟨⟨some, digits⟩, _⟩, _, _, rfl⟩ := shape
  rcases signed with rfl | rfl
  · cases whole with
    | nil => exact absurd rfl some
    | cons d whole =>
      cases split
      simp [startsNumber, digits c List.mem_cons_self]
  · cases split
    rfl

theorem IsNumber.unique {w w' rest rest' : List Char} (shape : IsNumber w) (shape' : IsNumber w')
    (ends : Ends rest) (ends' : Ends rest') (same : w ++ rest = w' ++ rest') :
    w = w' ∧ rest = rest' := by
  have spans : (w, rest) = (w', rest') := by
    rw [← Text.span_append shape.numerals ends, ← Text.span_append shape'.numerals ends', same]
  exact Prod.mk.inj spans

theorem blank_cases {c : Char} (blank : isBlank c) : c = ' ' ∨ c = '\t' ∨ c = '\n' ∨ c = '\r' := by
  simpa [isBlank, or_assoc] using blank

theorem Blanks.ends {s t : List Char} (blanks : Blanks s t) (ends : Ends t) : Ends s := by
  cases blanks with
  | none => exact ends
  | one blank _ =>
    rintro _ ⟨⟩
    rcases blank_cases blank with rfl | rfl | rfl | rfl <;> rfl

/-- The characters that a value may begin with. -/
def startsValue (c : Char) : Bool :=
  startsNumber c || c == 'n' || c == 't' || c == 'f' || c == '"' || c == '[' || c == '\x7b'

theorem Reads.starts {s t : List Char} {v : Value} (reads : Reads s (.value v) t) :
    ∃ c rest, s = c :: rest ∧ startsValue c := by
  cases reads with
  | number shape split =>
    cases s with
    | nil =>
      obtain ⟨sign, whole, fraction, exponent, _, ⟨⟨some, _⟩, _⟩, _, _, rfl⟩ := shape
      simp [some] at split
    | cons c s => exact ⟨c, s, rfl, by simp [startsValue, shape.starts split]⟩
  | null | true | false | text | emptyList | list | emptyRecord | record => exact ⟨_, _, rfl, rfl⟩

theorem Reads.solid {s t : List Char} {v : Value} (reads : Reads s (.value v) t) : Solid s := by
  obtain ⟨c, rest, rfl, starts⟩ := reads.starts
  apply solid_cons
  by_contra blank
  rcases blank_cases (Bool.of_not_eq_false blank) with rfl | rfl | rfl | rfl <;> cases starts

theorem Key.unique {s t t' : List Char} {name name' : String} (key : Key s name t)
    (other : Key s name' t') (solid : Solid t) (solid' : Solid t') : name = name' ∧ t = t' := by
  obtain ⟨front, letters, behind, gap⟩ := key
  obtain ⟨front', letters', behind', gap'⟩ := other
  cases front.unique front' (solid_cons rfl) (solid_cons rfl)
  obtain ⟨rfl, rfl⟩ := letters.unique letters'
  cases behind.unique behind' (solid_cons rfl) (solid_cons rfl)
  exact ⟨rfl, gap.unique gap' solid solid'⟩

theorem Reads.items_not_closed {s t rest : List Char} {vs : List Value}
    (items : Reads s (.items vs) t) (closed : Blanks s (']' :: rest)) : False := by
  cases items with
  | lastItem front item | item front item =>
    obtain ⟨c, more, rfl, starts⟩ := item.starts
    cases front.unique closed item.solid (solid_cons rfl)
    cases starts

theorem Reads.fields_not_closed {s t rest : List Char} {fs : List (String × Value)}
    (fields : Reads s (.fields fs) t) (closed : Blanks s ('\x7d' :: rest)) : False := by
  cases fields with
  | lastField key | field key =>
    obtain ⟨front⟩ := key
    cases front.unique closed (solid_cons rfl) (solid_cons rfl)

/-- Nothing else of the same sort can be read from the text. A number is cut short by what follows
it only, so values are compared where none of its characters follows. -/
def Alone (s : List Char) (phrase : Phrase) (t : List Char) : Prop :=
  match phrase with
  | .value v => ∀ {v' t'}, Reads s (.value v') t' → Ends t → Ends t' → v = v' ∧ t = t'
  | .items vs => ∀ {vs' t'}, Reads s (.items vs') t' → vs = vs' ∧ t = t'
  | .fields fs => ∀ {fs' t'}, Reads s (.fields fs') t' → fs = fs' ∧ t = t'

/-- What ends an item or a field. -/
def isMark (c : Char) : Bool := c == ',' || c == ']' || c == '\x7d'

theorem Alone.upTo {s t t' rest rest' : List Char} {v v' : Value} {c c' : Char}
    (alone : Alone s (.value v) t) (other : Reads s (.value v') t')
    (behind : Blanks t (c :: rest)) (behind' : Blanks t' (c' :: rest')) (mark : isMark c)
    (mark' : isMark c') : v = v' ∧ c :: rest = c' :: rest' := by
  have plain {c : Char} (mark : isMark c) : isBlank c = false ∧ isNumeral c = false := by
    have marks : (c = ',' ∨ c = ']') ∨ c = '\x7d' := by simpa [isMark] using mark
    rcases marks with (rfl | rfl) | rfl <;> exact ⟨rfl, rfl⟩
  obtain ⟨rfl, rfl⟩ := alone other (behind.ends (ends_cons (plain mark).2))
    (behind'.ends (ends_cons (plain mark').2))
  exact ⟨rfl, behind.unique behind' (solid_cons (plain mark).1) (solid_cons (plain mark').1)⟩

theorem Reads.alone {s t : List Char} {phrase : Phrase} (reads : Reads s phrase t) :
    Alone s phrase t := by
  induction reads with
  | null =>
    intro v' t' other _ _
    cases other with
    | null => exact ⟨rfl, rfl⟩
    | number shape split => cases shape.starts split
  | true =>
    intro v' t' other _ _
    cases other with
    | true => exact ⟨rfl, rfl⟩
    | number shape split => cases shape.starts split
  | false =>
    intro v' t' other _ _
    cases other with
    | false => exact ⟨rfl, rfl⟩
    | number shape split => cases shape.starts split
  | number shape split =>
    intro v' t' other ends ends'
    cases other with
    | number shape' split' =>
      obtain ⟨rfl, rfl⟩ := shape.unique shape' ends ends' (split.symm.trans split')
      exact ⟨rfl, rfl⟩
    | null | true | false | text | emptyList | list | emptyRecord | record =>
      cases shape.starts split
  | text letters =>
    intro v' t' other _ _
    cases other with
    | text letters' =>
      obtain ⟨rfl, rfl⟩ := letters.unique letters'
      exact ⟨rfl, rfl⟩
    | number shape split => cases shape.starts split
  | emptyList closed =>
    intro v' t' other _ _
    cases other with
    | emptyList closed' =>
      cases closed.unique closed' (solid_cons rfl) (solid_cons rfl)
      exact ⟨rfl, rfl⟩
    | list items => exact (items.items_not_closed closed).elim
    | number shape split => cases shape.starts split
  | list items ih =>
    intro v' t' other _ _
    cases other with
    | emptyList closed => exact (items.items_not_closed closed).elim
    | list items' =>
      obtain ⟨rfl, rfl⟩ := ih items'
      exact ⟨rfl, rfl⟩
    | number shape split => cases shape.starts split
  | lastItem front item closed ih =>
    intro vs' t' other
    cases other with
    | lastItem front' item' closed' =>
      cases front.unique front' item.solid item'.solid
      obtain ⟨rfl, ⟨⟩⟩ := Alone.upTo ih item' closed closed' rfl rfl
      exact ⟨rfl, rfl⟩
    | item front' item' comma more =>
      cases front.unique front' item.solid item'.solid
      obtain ⟨rfl, ⟨⟩⟩ := Alone.upTo ih item' closed comma rfl rfl
  | item front item comma more ih ihMore =>
    intro vs' t' other
    cases other with
    | lastItem front' item' closed =>
      cases front.unique front' item.solid item'.solid
      obtain ⟨rfl, ⟨⟩⟩ := Alone.upTo ih item' comma closed rfl rfl
    | item front' item' comma' more' =>
      cases front.unique front' item.solid item'.solid
      obtain ⟨rfl, ⟨⟩⟩ := Alone.upTo ih item' comma comma' rfl rfl
      obtain ⟨rfl, rfl⟩ := ihMore more'
      exact ⟨rfl, rfl⟩
  | emptyRecord closed =>
    intro v' t' other _ _
    cases other with
    | emptyRecord closed' =>
      cases closed.unique closed' (solid_cons rfl) (solid_cons rfl)
      exact ⟨rfl, rfl⟩
    | record fields => exact (fields.fields_not_closed closed).elim
    | number shape split => cases shape.starts split
  | record fields ih =>
    intro v' t' other _ _
    cases other with
    | emptyRecord closed => exact (fields.fields_not_closed closed).elim
    | record fields' =>
      obtain ⟨rfl, rfl⟩ := ih fields'
      exact ⟨rfl, rfl⟩
    | number shape split => cases shape.starts split
  | lastField key value closed ih =>
    intro fs' t' other
    cases other with
    | lastField key' value' closed' =>
      obtain ⟨rfl, rfl⟩ := key.unique key' value.solid value'.solid
      obtain ⟨rfl, ⟨⟩⟩ := Alone.upTo ih value' closed closed' rfl rfl
      exact ⟨rfl, rfl⟩
    | field key' value' comma more =>
      obtain ⟨rfl, rfl⟩ := key.unique key' value.solid value'.solid
      obtain ⟨rfl, ⟨⟩⟩ := Alone.upTo ih value' closed comma rfl rfl
  | field key value comma more ih ihMore =>
    intro fs' t' other
    cases other with
    | lastField key' value' closed =>
      obtain ⟨rfl, rfl⟩ := key.unique key' value.solid value'.solid
      obtain ⟨rfl, ⟨⟩⟩ := Alone.upTo ih value' comma closed rfl rfl
    | field key' value' comma' more' =>
      obtain ⟨rfl, rfl⟩ := key.unique key' value.solid value'.solid
      obtain ⟨rfl, ⟨⟩⟩ := Alone.upTo ih value' comma comma' rfl rfl
      obtain ⟨rfl, rfl⟩ := ihMore more'
      exact ⟨rfl, rfl⟩

theorem Denotes.unique {text : String} {v v' : Value} (meaning : Denotes text v)
    (other : Denotes text v') : v = v' := by
  obtain ⟨s, t, front, reads, behind⟩ := meaning
  obtain ⟨s', t', front', reads', behind'⟩ := other
  cases front.unique front' reads.solid reads'.solid
  exact (reads.alone reads' (behind.ends ends_nil) (behind'.ends ends_nil)).1

end Flowchart.Json
