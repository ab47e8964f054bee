/-! The grammar of JSON. Each rule says what is read off the front of a text, what it means, and
what is left of the text. -/
namespace Flowchart.Json

/-- What a JSON text means. Numbers are kept as they are written, fields in their order. -/
inductive Value
  | null
  | truth (value : Bool)
  | number (written : List Char)
  | text (value : String)
  | list (items : List Value)
  | record (fields : List (String × Value))

def isBlank (c : Char) : Bool := c == ' ' || c == '\t' || c == '\n' || c == '\r'

inductive Blanks : List Char → List Char → Prop
  | none {s : List Char} : Blanks s s
  | one {c : Char} {s rest : List Char} (blank : isBlank c) (blanks : Blanks s rest) :
      Blanks (c :: s) rest

def IsDigits (w : List Char) : Prop := w ≠ [] ∧ ∀ c ∈ w, c.isDigit

/-- The digits in front of the point; only zero itself begins with a zero. -/
def IsWhole (w : List Char) : Prop := IsDigits w ∧ (w.head? = some '0' → w = ['0'])

def IsFraction (w : List Char) : Prop := w = [] ∨ ∃ digits, IsDigits digits ∧ w = '.' :: digits

def IsExponent (w : List Char) : Prop :=
  w = [] ∨ ∃ mark sign digits, (mark = 'e' ∨ mark = 'E') ∧
    (sign = [] ∨ sign = ['+'] ∨ sign = ['-']) ∧ IsDigits digits ∧ w = mark :: (sign ++ digits)

def IsNumber (w : List Char) : Prop :=
  ∃ sign whole fraction exponent, (sign = [] ∨ sign = ['-']) ∧ IsWhole whole ∧
    IsFraction fraction ∧ IsExponent exponent ∧ w = sign ++ whole ++ fraction ++ exponent

def hexDigit? (c : Char) : Option Nat :=
  if c.isDigit then some (c.toNat - '0'.toNat)
  else if 'a' ≤ c ∧ c ≤ 'f' then some (c.toNat - 'a'.toNat + 10)
  else if 'A' ≤ c ∧ c ≤ 'F' then some (c.toNat - 'A'.toNat + 10)
  else none

/-- The number that four hexadecimal digits write. -/
def hexUnit? (a b c d : Char) : Option Nat := do
  let a ← hexDigit? a
  let b ← hexDigit? b
  let c ← hexDigit? c
  let d ← hexDigit? d
  return ((a * 16 + b) * 16 + c) * 16 + d

/-- The characters that have an escape of one letter. -/
def shortEscape? : Char → Option Char
  | '"' => some '"'
  | '\\' => some '\\'
  | '/' => some '/'
  | 'b' => some '\x08'
  | 'f' => some '\x0c'
  | 'n' => some '\n'
  | 'r' => some '\r'
  | 't' => some '\t'
  | _ => none

/-- A character of a string: as it is, by a letter, by its number, or by the two numbers of a
surrogate pair. -/
inductive Letter : List Char → Char → List Char → Prop
  | plain {c : Char} {rest : List Char} (printed : 0x20 ≤ c.toNat) (quote : c ≠ '"')
      (backslash : c ≠ '\\') : Letter (c :: rest) c rest
  | short {mark c : Char} {rest : List Char} (named : shortEscape? mark = some c) :
      Letter ('\\' :: mark :: rest) c rest
  | unit {a b c d : Char} {n : Nat} {rest : List Char} (written : hexUnit? a b c d = some n)
      (single : n < 0xD800 ∨ 0xE000 ≤ n) :
      Letter ('\\' :: 'u' :: a :: b :: c :: d :: rest) (Char.ofNat n) rest
  | pair {a b c d a' b' c' d' : Char} {m n : Nat} {rest : List Char}
      (high : hexUnit? a b c d = some m) (first : 0xD800 ≤ m ∧ m < 0xDC00)
      (low : hexUnit? a' b' c' d' = some n) (second : 0xDC00 ≤ n ∧ n < 0xE000) :
      Letter ('\\' :: 'u' :: a :: b :: c :: d :: '\\' :: 'u' :: a' :: b' :: c' :: d' :: rest)
        (Char.ofNat (0x10000 + (m - 0xD800) * 0x400 + (n - 0xDC00))) rest

/-- The characters up to the closing quote, which is taken too. -/
inductive Letters : List Char → List Char → List Char → Prop
  | close {rest : List Char} : Letters ('"' :: rest) [] rest
  | letter {c : Char} {s t cs rest : List Char} (first : Letter s c t) (more : Letters t cs rest) :
      Letters s (c :: cs) rest

/-- The key of a field, up to its value. -/
inductive Key : List Char → String → List Char → Prop
  | key {s t u v cs rest : List Char} (front : Blanks s ('"' :: t)) (letters : Letters t cs u)
      (behind : Blanks u (':' :: v)) (gap : Blanks v rest) : Key s (String.ofList cs) rest

/-- A value, or what stands in a list or a record behind its opening bracket. -/
inductive Phrase
  | value (v : Value)
  | items (vs : List Value)
  | fields (fs : List (String × Value))

inductive Reads : List Char → Phrase → List Char → Prop
  | null {rest : List Char} : Reads ('n' :: 'u' :: 'l' :: 'l' :: rest) (.value .null) rest
  | true {rest : List Char} : Reads ('t' :: 'r' :: 'u' :: 'e' :: rest) (.value (.truth .true)) rest
  | false {rest : List Char} :
      Reads ('f' :: 'a' :: 'l' :: 's' :: 'e' :: rest) (.value (.truth .false)) rest
  | number {s w rest : List Char} (shape : IsNumber w) (split : s = w ++ rest) :
      Reads s (.value (.number w)) rest
  | text {s cs rest : List Char} (letters : Letters s cs rest) :
      Reads ('"' :: s) (.value (.text (String.ofList cs))) rest
  | emptyList {s rest : List Char} (closed : Blanks s (']' :: rest)) :
      Reads ('[' :: s) (.value (.list [])) rest
  | list {s rest : List Char} {vs : List Value} (items : Reads s (.items vs) rest) :
      Reads ('[' :: s) (.value (.list vs)) rest
  | lastItem {s t u rest : List Char} {v : Value} (front : Blanks s t) (item : Reads t (.value v) u)
      (closed : Blanks u (']' :: rest)) : Reads s (.items [v]) rest
  | item {s t u w rest : List Char} {v : Value} {vs : List Value} (front : Blanks s t)
      (item : Reads t (.value v) u) (comma : Blanks u (',' :: w)) (more : Reads w (.items vs) rest) :
      Reads s (.items (v :: vs)) rest
  | emptyRecord {s rest : List Char} (closed : Blanks s ('\x7d' :: rest)) :
      Reads ('\x7b' :: s) (.value (.record [])) rest
  | record {s rest : List Char} {fs : List (String × Value)} (fields : Reads s (.fields fs) rest) :
      Reads ('\x7b' :: s) (.value (.record fs)) rest
  | lastField {s t u rest : List Char} {name : String} {v : Value} (key : Key s name t)
      (value : Reads t (.value v) u) (closed : Blanks u ('\x7d' :: rest)) :
      Reads s (.fields [(name, v)]) rest
  | field {s t u w rest : List Char} {name : String} {v : Value} {fs : List (String × Value)}
      (key : Key s name t) (value : Reads t (.value v) u) (comma : Blanks u (',' :: w))
      (more : Reads w (.fields fs) rest) : Reads s (.fields ((name, v) :: fs)) rest

/-- A whole text is JSON and means the value. -/
def Denotes (text : String) (v : Value) : Prop :=
  ∃ s t, Blanks text.toList s ∧ Reads s (.value v) t ∧ Blanks t []

end Flowchart.Json
