import Flowchart.Script.Layout

/-! Scripts as a language for the parser. -/
namespace Flowchart.Script

open Flowchart.Grammar
open Flowchart.Parsing

/-- The table of scripts. -/
def table : Table := grammar.table lexicon

private def tokenNumber (name : String) : Nat :=
  (table.symbols.findIdx? (·.name == name)).getD 0

/-- The numbers of the tokens that finding layout tokens needs. -/
private structure Numbers where
  semicolon : Nat
  template : Nat
  ternary : Nat
  comment : Nat
  element : Nat
  disjunction : Nat
  escape : Nat
  regex : Nat

private def numbers : Numbers where
  semicolon := tokenNumber "_automatic_semicolon"
  template := tokenNumber "_template_chars"
  ternary := tokenNumber "_ternary_qmark"
  comment := tokenNumber "html_comment"
  element := tokenNumber "jsx_text"
  disjunction := tokenNumber "||"
  escape := tokenNumber "escape_sequence"
  regex := tokenNumber "regex_pattern"

private def Layout.number : Layout → Nat
  | .semicolon => numbers.semicolon
  | .template => numbers.template
  | .ternary => numbers.ternary
  | .comment => numbers.comment
  | .element => numbers.element

/-- Finds the layout token at a place among the valid ones. -/
def findLayout (valid : Nat → Bool) (here : Lexical.Cursor) : Option LayoutMark :=
  let valid : Valid :=
    { semicolon := valid numbers.semicolon
      template := valid numbers.template
      ternary := valid numbers.ternary
      comment := valid numbers.comment
      element := valid numbers.element
      disjunction := valid numbers.disjunction
      escape := valid numbers.escape
      regex := valid numbers.regex }
  (layoutAt valid here).map fun (kind, start, stop) => ⟨kind.number, start, stop⟩

/-- The keywords of scripts by their text. -/
private def keywords : Std.HashMap String Nat :=
  ((List.range table.tokens).filter table.vocabulary.keywords.contains).foldl
    (fun known t => known.insert (table.symbols[t]!).name t) {}

/-- Scripts. -/
def language : Language where
  table := table
  lexicon := lexicon
  word := tokenNumber grammar.word
  keywords := keywords
  layout := findLayout

end Flowchart.Script
