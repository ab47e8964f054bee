import Flowchart.Lexical.Pattern
import Flowchart.Grammar.Production
import Flowchart.Script.Grammar

/-! The spellings of the tokens of scripts. -/
namespace Flowchart.Script

open Flowchart.Lexical
open Flowchart.Lexical.Pattern

/-- Blanks between tokens. -/
def blanks : CharSet := ⟨[(0x09, 0x0D), (0x20, 0x20), (0xA0, 0xA0), (0x1680, 0x1680),
  (0x2000, 0x200B), (0x2028, 0x2029), (0x202F, 0x202F), (0x205F, 0x2060), (0x3000, 0x3000),
  (0xFEFF, 0xFEFF)]⟩

private def controls : CharSet := ⟨[(0x00, 0x1F)]⟩

private def digits : CharSet := .range '0' '9'

private def hexDigits : CharSet := digits.union ((CharSet.range 'a' 'f').union (.range 'A' 'F'))

private def punctuation : CharSet := .ofChars ":;`\"'@#.,|^&<=>+-*/\\%?!~()[]\x7b\x7d"

private def unicodeEscape : Pattern :=
  .either (all [text "\\u", times (one hexDigits) 4 0])
    (all [text "\\u\x7b", plus (one hexDigits), char '\x7d'])

private def nameStart : Pattern :=
  .either (one (((controls.union blanks).union digits).union punctuation).compl) unicodeEscape

private def namePart : Pattern :=
  .either (one ((controls.union blanks).union punctuation).compl) unicodeEscape

private def name : Pattern := .seq nameStart (.star namePart)

/-- Digits with single underscores between them. -/
private def digitRun (set : CharSet) : Pattern :=
  .seq (one set) (.star (.seq (optional (char '_')) (one set)))

private def number : Pattern :=
  let decimals := digitRun digits
  let hex := all [char '0', anyOf "xX", digitRun hexDigits]
  let binary := all [char '0', anyOf "bB", digitRun (.range '0' '1')]
  let octal := all [char '0', anyOf "oO", digitRun (.range '0' '7')]
  let exponent := all [anyOf "eE", optional (anyOf "-+"), decimals]
  let integer := .either (char '0')
    (all [optional (char '0'), one (.range '1' '9'),
      optional (.seq (optional (char '_')) decimals)])
  let decimal := any [
    all [integer, char '.', optional decimals, optional exponent],
    all [char '.', decimals, optional exponent],
    .seq integer exponent,
    decimals]
  let big := .seq (any [hex, binary, octal, decimals]) (char 'n')
  any [hex, decimal, binary, octal, big]

private def escape : Pattern :=
  .seq (char '\\') (any [
    noneOf "xu01234567",
    times (one (.range '0' '7')) 1 2,
    .seq (char 'x') (times (one hexDigits) 2 0),
    .seq (char 'u') (times (one hexDigits) 4 0),
    all [text "u\x7b", plus (one hexDigits), char '\x7d'],
    .seq (anyOf "\r?") (anyOf "\n\u2028\u2029")])

private def comment : Pattern :=
  .either
    (.seq (text "//") (.star (noneOf "\r\n\u2028\u2029")))
    (all [text "/*", .star (noneOf "*"), plus (char '*'),
      .star (all [noneOf "/*", .star (noneOf "*"), plus (char '*')]), char '/'])

private def regexBody : Pattern :=
  plus (any [
    all [char '[', .star (.either (.seq (char '\\') (noneOf "\n")) (noneOf "]\n\\")), char ']'],
    .seq (char '\\') (noneOf "\n"),
    noneOf "/\\[\n"])

private def characterReference : Pattern :=
  let letter := (CharSet.range 'A' 'Z').union (.range 'a' 'z')
  all [char '&',
    .either
      (.seq (char '#') (.either
        (.seq (anyOf "xX") (times (one hexDigits) 1 5))
        (times (one digits) 1 4)))
      (times (one letter) 1 29),
    char ';']

private def markupFragment (quote : String) : Pattern :=
  plus (.either (noneOf (quote ++ "&"))
    (.seq (char '&') (one ((CharSet.ofChars "#").union
      ((CharSet.range 'A' 'Z').union (.range 'a' 'z'))).compl)))

private def markupName : Pattern :=
  let letter := ((CharSet.range 'A' 'Z').union (.range 'a' 'z')).union (.ofChars "_$")
  let part := letter.union digits
  all [one letter, .star (one part), char '-', .star (one (part.union (.ofChars "-")))]

private def blank : Pattern := one blanks

/-- The tokens that are not spelled as their name says. -/
def spelledTokens : List (String × Spelling) := [
  ("identifier", .ofPattern name),
  ("hash_bang_line", .ofPattern (.seq (text "#!") (.star (noneOf "\n")))),
  ("_glimmer_template_content", .ofPattern (noneOf "\n")),
  ("glimmer_opening_tag", .literal "<template>"),
  ("glimmer_closing_tag", .literal "</template>"),
  ("html_character_reference", .ofPattern characterReference),
  ("jsx_identifier", .ofPattern markupName),
  ("double_markup_fragment", .adjacent 1 (markupFragment "\"")),
  ("single_markup_fragment", .adjacent 1 (markupFragment "'")),
  ("double_fragment", .adjacent 1 (plus (noneOf "\"\\\r\n"))),
  ("single_fragment", .adjacent 1 (plus (noneOf "'\\\r\n"))),
  ("escape_sequence", .adjacent 0 escape),
  ("comment", .ofPattern comment),
  ("regex_close", { Spelling.adjacent 1 (char '/') with weight := 3 }),
  ("regex_pattern", .adjacent (-1) regexBody),
  ("regex_flags", .adjacent 0 (plus (one (.range 'a' 'z')))),
  ("number", .ofPattern number),
  ("private_property_identifier", .ofPattern (.seq (char '#') name)),
  ("optional_chain", .literal "?."),
  ("static_get", .ofPattern (all [text "static", plus blank, text "get", .star blank, char '\n']))]

/-- The spelling of each token; the end of the text and the layout tokens have none. -/
def lexicon : Lexicon where
  spellings :=
    let layout := grammar.layoutTokens.map (·.name)
    grammar.tokenInfos.map fun info =>
      if info.name == "end" || layout.contains info.name then none
      else match spelledTokens.lookup info.name with
        | some s => some s
        | none => some (.literal info.name)
  blanks := blanks

end Flowchart.Script
