import Flowchart.Parsing.Language
import Flowchart.Script.Lexicon

/-! The layout tokens of scripts: tokens that depend on line breaks, on comments, or on what else
could stand in their place. -/
namespace Flowchart.Script

open Flowchart.Grammar
open Flowchart.Lexical
open Flowchart.Parsing

/-- Reading ahead: the place reached, and where a token would start, behind blanks passed over. -/
structure Probe where
  here : Cursor
  start : Cursor
deriving Inhabited

namespace Probe

/-- The next character; the end of the text reads as the null character. -/
def peek (p : Probe) : Char := (p.here.rest.head?).getD '\x00'

/-- Reads a character as part of a token. -/
def advance (p : Probe) : Probe := { p with here := p.here.next }

/-- Passes over a character in front of a token. -/
def pass (p : Probe) : Probe := ⟨p.here.next, p.here.next⟩

/-- Passes over characters as long as a test holds. -/
def passWhile (test : Char → Bool) (p : Probe) : Probe :=
  let rec go : List Char → Probe → Probe
    | c :: rest, p => if test c then go rest p.pass else p
    | [], p => p
  go p.here.rest p

/-- Reads characters as long as a test holds. -/
def advanceWhile (test : Char → Bool) (p : Probe) : Probe :=
  let rec go : List Char → Probe → Probe
    | c :: rest, p => if test c then go rest p.advance else p
    | [], p => p
  go p.here.rest p

end Probe

private def isSpace (c : Char) : Bool := c == ' ' || (9 ≤ c.toNat && c.toNat ≤ 13)

private def isBreak (c : Char) : Bool := c == '\n' || c == '\u2028' || c == '\u2029'

private def endsLine (c : Char) : Bool := c == '\x00' || isBreak c

/-- What comments say about a semicolon: there can be none, they do not decide, or there may be
one. -/
private inductive Gap
  | rejected
  | open
  | accepted
deriving BEq

/-- Passes the rest of a block comment. Answers whether it was closed, and whether it holds a line
break. -/
private def passBlock : List Char → Bool → Probe → Bool × Bool × Probe
  | [], broken, p => (false, broken, p)
  | '\x00' :: _, broken, p => (false, broken, p)
  | '*' :: '/' :: _, broken, p => (true, broken, p.pass.pass)
  | c :: rest, broken, p => passBlock rest (broken || isBreak c) p.pass

/-- Passes blanks and comments. In front of a line break a block comment ends the search: it decides
if it holds a line break itself. -/
private def passComments (behindBreak : Bool) : Nat → Bool → Bool → Probe → Gap × Bool × Probe
  | 0, commented, _, p => (.accepted, commented, p)
  | fuel + 1, commented, broken, p =>
    let p := p.passWhile isSpace
    if p.peek != '/' then (.accepted, commented, p)
    else
      let p := p.pass
      if p.peek == '/' then
        passComments behindBreak fuel true broken (p.pass.passWhile fun c => !endsLine c)
      else if p.peek == '*' then
        let p := p.pass
        let (closed, broken, p) := passBlock p.here.rest broken p
        if closed && p.peek != '/' && !behindBreak then
          (if broken then .accepted else .open, true, p)
        else passComments behindBreak fuel (commented || closed) broken p
      else (.rejected, commented, p)

/-- Whether a statement may end at a line break before this text. -/
private def mayBegin (p : Probe) : Bool × Probe :=
  let c := p.peek
  if ",:;*%><=[(?^|&/".toList.contains c then (false, p)
  else if c == '.' then (p.pass.peek.isDigit, p.pass)
  else if c == '+' || c == '-' then (p.pass.peek == c, p.pass)
  else if c == '!' then (p.pass.peek != '=', p.pass)
  else if c == 'i' then
    let p := p.pass
    if p.peek != 'n' then (true, p)
    else
      let p := p.pass
      if !p.peek.isAlpha then (false, p)
      else
        match ofWord p "stanceof".toList with
        | (true, p) => (p.peek.isAlpha, p)
        | (false, p) => (true, p)
  else (true, p)
where
  /-- The letters of a word stand here. -/
  ofWord (p : Probe) : List Char → Bool × Probe
    | [] => (true, p)
    | c :: rest => if p.peek == c then ofWord p.pass rest else (false, p)

/-- A statement may end here without a semicolon. `binary` says that it could also go on with an
operator. Answers also whether a comment was passed, and the place reached. -/
private def endsStatement (binary : Bool) : Nat → Bool → Probe → Bool × Bool × Probe
  | 0, commented, p => (false, commented, p)
  | fuel + 1, commented, p =>
    if p.peek == '\x00' then (true, commented, p)
    else
      let (gap, commented, p) :=
        if p.peek == '/' then passComments false (fuel + 1) commented false p
        else (.open, commented, p)
      if gap == .rejected then (false, commented, p)
      else if gap == .accepted && !binary && p.peek != ',' && p.peek != '=' then
        (true, commented, p)
      else if p.peek == '\x7d' || p.here.byte == 0 then (true, commented, p)
      else if isBreak p.peek then
        let (gap, commented, p) := passComments true (fuel + 1) commented false p.pass
        if gap == .rejected then (false, commented, p)
        else
          let (ends, p) := mayBegin p
          (ends, commented, p)
      else if isSpace p.peek then endsStatement binary fuel commented p.pass
      else (false, commented, p)

/-- The question mark of a conditional expression, which `??` and `?.` are not. -/
private def ternaryMark? (p : Probe) : Option Probe :=
  let p := p.passWhile isSpace
  if p.peek != '?' then none
  else
    let p := p.advance
    if p.peek == '?' then none
    else if p.peek == '.' && !p.advance.peek.isDigit then none
    else some p

/-- A comment from `<!--` or `-->` to the end of its line. -/
private def markupComment? (p : Probe) : Option Probe :=
  let p := p.passWhile fun c => isSpace c || isBreak c
  let opening := if p.peek == '<' then "<!--".toList else "-->".toList
  if opening.isPrefixOf p.here.rest then
    some (p.advanceWhile fun c => !endsLine c)
  else none

/-- Text between the holes of a template, with the place behind it. `some` says that there is any. -/
private def templateText (some : Bool) : List Char → Probe → Bool × Probe
  | [], p => (false, p)
  | '\x00' :: _, p => (false, p)
  | '`' :: _, p => (some, p)
  | '\\' :: _, p => (some, p)
  | '$' :: '\x7b' :: _, p => (some, p)
  | _ :: rest, p => templateText true rest p.advance

/-- Text between the tags of an element. Line breaks with the blanks behind them are no text. -/
private def elementText (text fresh : Bool) : List Char → Probe → Bool × Probe
  | [], p => (text, p)
  | c :: rest, p =>
    if c == '\x00' || c == '<' || c == '>' || c == '\x7b' || c == '\x7d' || c == '&' then (text, p)
    else if c == '\n' then elementText text true rest p.advance
    else
      let fresh := fresh && isSpace c
      elementText (text || !fresh) fresh rest p.advance

/-- The tokens that decide what a layout token may be. -/
structure Valid where
  semicolon : Bool
  template : Bool
  ternary : Bool
  comment : Bool
  element : Bool
  disjunction : Bool
  escape : Bool
  regex : Bool

/-- The layout tokens. -/
inductive Layout
  | semicolon
  | template
  | ternary
  | comment
  | element

/-- The layout token at a place, with the place where it starts and the one where it ends. An
inserted semicolon takes no text. -/
def layoutAt (valid : Valid) (here : Cursor) : Option (Layout × Cursor × Cursor) :=
  let p : Probe := ⟨here, here⟩
  let spanned := fun (kind : Layout) (found : Option Probe) =>
    found.map fun (q : Probe) => (kind, q.start, q.here)
  if valid.template then
    if valid.semicolon then none
    else
      let (found, q) := templateText false here.rest p
      if found then some (.template, here, q.here) else none
  else
    let (found, q) := if valid.element then elementText false false here.rest p else (false, p)
    if found then some (.element, here, q.here)
    else if valid.semicolon then
      let (found, commented, r) := endsStatement valid.disjunction (q.here.rest.length + 1) false q
      if found then some (.semicolon, here, here)
      else if !commented && valid.ternary && r.peek == '?' then spanned .ternary (ternaryMark? r)
      else none
    else if valid.ternary then spanned .ternary (ternaryMark? q)
    else if valid.comment && !valid.disjunction && !valid.escape && !valid.regex then
      spanned .comment (markupComment? q)
    else none

end Flowchart.Script
