import Flowchart.Text.Span

/-! Scripts as trees of statements. Only statements that take part in a chart keep their parts; all
others are `unsupported`. -/
namespace Flowchart

/-- A declared name and its initial value. -/
structure Declarator where
  name : Span
  value : Option Span
deriving DecidableEq, Inhabited, Repr

inductive Statement
  | program (span : Span) (body : List Statement)
  | function (span name : Span) (body : Statement)
  | block (span : Span) (body : List Statement)
  | declaration (span : Span) (declarators : List Declarator)
  | conditional (span test : Span) (consequent : Statement) (alternate : Option Statement)
  | loop (span test : Span) (body : Statement)
  | expression (span : Span)
  | exit (span : Span) (argument : Option Span)
  | unsupported (span : Span) (kind : String)
deriving Inhabited

namespace Statement

def span : Statement → Span
  | program span _ | function span _ _ | block span _ | declaration span _
  | conditional span _ _ _ | loop span _ _ | expression span | exit span _
  | unsupported span _ => span

/-- The name of a kind of statement. -/
def kindName : Statement → String
  | program .. => "Program"
  | function .. => "FunctionDeclaration"
  | block .. => "BlockStatement"
  | declaration .. => "VariableDeclaration"
  | conditional .. => "IfStatement"
  | loop .. => "WhileStatement"
  | expression .. => "ExpressionStatement"
  | exit .. => "ReturnStatement"
  | unsupported _ kind => kind

/-- The range and the kind of a statement without a part in a chart. -/
def unsupported? : Statement → Option (Span × String)
  | unsupported span kind => some (span, kind)
  | _ => none

/-- The ranges that the label of a statement shows, in order. -/
def labelSpans : Statement → List Span
  | function _ name _ => [name]
  | declaration _ ds => ds.flatMap fun d => d.name :: d.value.toList
  | conditional _ test _ _ | loop _ test _ => [test]
  | expression span => [span]
  | exit _ argument => argument.toList
  | program .. | block .. | unsupported .. => []

mutual

/-- A statement and those below it, each before its parts, with their levels. -/
def reached (level : Nat) : Statement → List (Nat × Statement)
  | program span body => (level, program span body) :: reachedAll (level + 1) body
  | block span body => (level, block span body) :: reachedAll (level + 1) body
  | function span name body => (level, function span name body) :: reached (level + 1) body
  | declaration span ds => [(level, declaration span ds)]
  | conditional span test consequent none =>
    (level, conditional span test consequent none) :: reached (level + 1) consequent
  | conditional span test consequent (some alternate) =>
    (level, conditional span test consequent (some alternate)) ::
      (reached (level + 1) consequent ++ reached (level + 1) alternate)
  | loop span test body => (level, loop span test body) :: reached (level + 1) body
  | expression span => [(level, expression span)]
  | exit span argument => [(level, exit span argument)]
  | unsupported span kind => [(level, unsupported span kind)]

def reachedAll (level : Nat) : List Statement → List (Nat × Statement)
  | [] => []
  | s :: rest => reached level s ++ reachedAll level rest

end

end Statement

end Flowchart
