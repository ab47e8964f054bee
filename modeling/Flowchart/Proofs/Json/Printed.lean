import Flowchart.Chart.Json
import Flowchart.Proofs.Json.Unambiguous

/-! What is printed as JSON is JSON, and means what was printed. -/
namespace Flowchart.Json

mutual

/-- The meaning of what is printed. -/
def value : Json → Value
  | text value => .text value
  | list items => .list (values items)
  | record fields => .record (fieldValues fields)

def values : List Json → List Value
  | [] => []
  | item :: rest => item.value :: values rest

def fieldValues : List (String × Json) → List (String × Value)
  | [] => []
  | (key, item) :: rest => (key, item.value) :: fieldValues rest

end

theorem values_eq_map (items : List Json) : values items = items.map value := by
  induction items with
  | nil => rfl
  | cons item rest ih => rw [values, ih, List.map_cons]

/-- A control character is written by its number. -/
theorem hexUnit?_control : ∀ n < 0x20,
    hexUnit? '0' '0' (Nat.digitChar (n / 16)) (Nat.digitChar (n % 16)) = some n := by decide

theorem letter_escapeChar (c : Char) (rest : List Char) : Letter (escapeChar c ++ rest) c rest := by
  by_cases named : c ∈ ['"', '\\', '\x08', '\x0c', '\n', '\r', '\t']
  · simp only [List.mem_cons, List.not_mem_nil, or_false] at named
    rcases named with rfl | rfl | rfl | rfl | rfl | rfl | rfl <;> exact .short rfl
  · simp only [List.mem_cons, List.not_mem_nil, or_false, not_or] at named
    by_cases control : c.toNat < 0x20
    · have unit : Letter ('\\' :: 'u' :: '0' :: '0' :: Nat.digitChar (c.toNat / 16) ::
          Nat.digitChar (c.toNat % 16) :: rest) (Char.ofNat c.toNat) rest :=
        .unit (hexUnit?_control c.toNat control) (by omega)
      rw [Char.ofNat_toNat] at unit
      simpa [escapeChar, named, control] using unit
    · have plain : Letter (c :: rest) c rest := .plain (by omega) named.1 named.2.1
      simpa [escapeChar, named, control] using plain

theorem letters_escaped (cs rest : List Char) :
    Letters (cs.flatMap escapeChar ++ '"' :: rest) cs rest := by
  induction cs with
  | nil => exact .close
  | cons c cs ih =>
    rw [List.flatMap_cons, List.append_assoc]
    exact .letter (letter_escapeChar c _) ih

theorem toList_quote (value : String) (rest : List Char) : (quote value).toList ++ rest =
    '"' :: (value.toList.flatMap escapeChar ++ '"' :: rest) := by
  simp [quote]

theorem blanks_newLine (level : Nat) (rest : List Char) :
    Blanks ((newLine level).toList ++ rest) rest := by
  rw [newLine, String.toList_ofList]
  refine .one rfl ?_
  induction 2 * level with
  | zero => exact .none
  | succ n ih => exact .one rfl ih

theorem items_last (level : Nat) (item : Json) (tail : List Char) :
    (",".intercalate (prettyItems level [item])).toList ++ tail =
      (newLine level).toList ++ ((item.pretty level).toList ++ tail) := by
  simp [prettyItems]

theorem items_more (level : Nat) (item next : Json) (more : List Json) (tail : List Char) :
    (",".intercalate (prettyItems level (item :: next :: more))).toList ++ tail =
      (newLine level).toList ++ ((item.pretty level).toList ++ (',' ::
        ((",".intercalate (prettyItems level (next :: more))).toList ++ tail))) := by
  simp [prettyItems]

theorem fields_last (level : Nat) (key : String) (item : Json) (tail : List Char) :
    (",".intercalate (prettyFields level [(key, item)])).toList ++ tail = (newLine level).toList ++
      ((quote key).toList ++ (':' :: ' ' :: ((item.pretty level).toList ++ tail))) := by
  simp [prettyFields]

theorem fields_more (level : Nat) (key : String) (item : Json) (next : String × Json)
    (more : List (String × Json)) (tail : List Char) :
    (",".intercalate (prettyFields level ((key, item) :: next :: more))).toList ++ tail =
      (newLine level).toList ++ ((quote key).toList ++ (':' :: ' ' :: ((item.pretty level).toList ++
        (',' :: ((",".intercalate (prettyFields level (next :: more))).toList ++ tail))))) := by
  simp [prettyFields]

theorem key_printed (level : Nat) (name : String) (rest : List Char) :
    Key ((newLine level).toList ++ ((quote name).toList ++ (':' :: ' ' :: rest))) name rest := by
  rw [toList_quote]
  have key := Key.key (blanks_newLine level _) (letters_escaped name.toList (':' :: ' ' :: rest))
    .none (.one rfl .none)
  rwa [String.ofList_toList] at key

mutual

theorem reads_pretty (level : Nat) (rest : List Char) : (item : Json) →
    Reads ((item.pretty level).toList ++ rest) (.value item.value) rest
  | .text content => by
    have read := Reads.text (letters_escaped content.toList rest)
    rwa [String.ofList_toList, ← toList_quote] at read
  | .list [] => by
    simpa [pretty, value, values] using Reads.emptyList (.none (s := ']' :: rest))
  | .list (item :: more) => by
    have closed := blanks_newLine level (']' :: rest)
    have read := Reads.list (reads_items (level + 1) closed (item :: more) (List.cons_ne_nil _ _))
    simpa [pretty, value, String.append_assoc] using read
  | .record [] => by
    simpa [pretty, value, fieldValues] using Reads.emptyRecord (.none (s := '\x7d' :: rest))
  | .record (field :: more) => by
    have closed := blanks_newLine level ('\x7d' :: rest)
    have read := Reads.record (reads_fields (level + 1) closed (field :: more)
      (List.cons_ne_nil _ _))
    simpa [pretty, value, String.append_assoc] using read

theorem reads_items (level : Nat) {tail rest : List Char} (closed : Blanks tail (']' :: rest)) :
    (items : List Json) → items ≠ [] →
      Reads ((",".intercalate (prettyItems level items)).toList ++ tail) (.items (values items)) rest
  | [], given => absurd rfl given
  | [item], _ => by
    rw [items_last]
    exact .lastItem (blanks_newLine level _) (reads_pretty level tail item) closed
  | item :: next :: more, _ => by
    rw [items_more]
    exact .item (blanks_newLine level _) (reads_pretty level _ item) .none
      (reads_items level closed (next :: more) (List.cons_ne_nil _ _))

theorem reads_fields (level : Nat) {tail rest : List Char}
    (closed : Blanks tail ('\x7d' :: rest)) : (fields : List (String × Json)) → fields ≠ [] →
      Reads ((",".intercalate (prettyFields level fields)).toList ++ tail)
        (.fields (fieldValues fields)) rest
  | [], given => absurd rfl given
  | [(key, item)], _ => by
    rw [fields_last]
    exact .lastField (key_printed level key _) (reads_pretty level tail item) closed
  | (key, item) :: next :: more, _ => by
    rw [fields_more]
    exact .field (key_printed level key _) (reads_pretty level _ item) .none
      (reads_fields level closed (next :: more) (List.cons_ne_nil _ _))

end

/-- A printed text has the meaning of what was printed, and no other. -/
theorem denotes_pretty (item : Json) (v : Value) :
    Denotes (item.pretty 0) v ↔ v = item.value := by
  have printed : Denotes (item.pretty 0) item.value := by
    have read := reads_pretty 0 [] item
    rw [List.append_nil] at read
    exact ⟨_, _, .none, read, .none⟩
  constructor
  · exact fun other => other.unique printed
  · rintro rfl
    exact printed

end Flowchart.Json
