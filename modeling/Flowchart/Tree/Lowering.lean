import Flowchart.Statement
import Flowchart.Tree.Error
import Flowchart.Walk

/-! From concrete trees to statements. Every tree without errors becomes a statement, unless
statements nest too deep. The body of a statement stands at the statement's own level if it is a
block, and one level below it otherwise. -/
namespace Flowchart.Tree

/-- A node lacks a field that its kind always has. -/
def lacks (t : Tree) (field : String) : Fault :=
  .parse (t.faultAt (t.kind ++ " without " ++ field))

/-- What must fill a field. -/
def required (t : Tree) (field : String) : Except Fault Tree :=
  match t.field? field with
  | some child => .ok child
  | none => .error (t.lacks field)

/-- The condition of a statement, without the parentheses around it. -/
def conditionSpan (t : Tree) : Except Fault Span := do
  let condition ← t.required "condition"
  if condition.kind == "parenthesized_expression" then
    match condition.parts with
    | inner :: _ => return inner.span
    | [] => return condition.span
  else return condition.span

/-- A declared name with its value. -/
def declarator (t : Tree) : Except Fault Declarator := do
  let name ← t.required "name"
  return ⟨name.span, (t.field? "value").map span⟩

def declarators (t : Tree) : Except Fault (List Declarator) :=
  (t.parts.filter fun child => child.kind == "variable_declarator").mapM declarator

/-- The level of a body whose statement stands at a level. -/
def bodyLevel (level : Nat) (body : Tree) : Nat :=
  if body.kind == "statement_block" then level else level + 1

/-- A part that must be there, once it is known what becomes of it. -/
def orLacks (t : Tree) (field : String) : Option (Except Fault Statement) → Except Fault Statement
  | some result => result
  | none => .error (t.lacks field)

mutual

/-- The statement that a node stands for, at a level counted from 0. -/
def lower (level : Nat) : Tree → Except Fault Statement
  | node info children => do
    let t := node info children
    if statementLimit < level then throw (.tooDeep statementLimit info.row)
    match info.kind with
    | "program" => return .program info.span (← lowerAll (level + 1) children)
    | "statement_block" => return .block info.span (← lowerAll (level + 1) children)
    | "function_declaration" | "generator_function_declaration" =>
      let name ← t.required "name"
      let body ← t.orLacks "body" (lowerField level "body" children)
      return .function info.span name.span body
    | "lexical_declaration" | "variable_declaration" =>
      return .declaration info.span (← t.declarators)
    | "if_statement" =>
      -- The other branch is looked at first, so its error is the one that shows.
      let _ ← t.required "consequence"
      let alternate ← (lowerElse level children).getD (pure none)
      let test ← t.conditionSpan
      let consequent ← t.orLacks "consequence" (lowerField level "consequence" children)
      return .conditional info.span test consequent alternate
    | "while_statement" =>
      let _ ← t.required "body"
      let test ← t.conditionSpan
      let body ← t.orLacks "body" (lowerField level "body" children)
      return .loop info.span test body
    | "expression_statement" => return .expression info.span
    | "return_statement" => return .exit info.span (t.parts.head?.map span)
    | kind => return .unsupported info.span kind

/-- The statements that the children of a list stand for. -/
def lowerAll (level : Nat) : List Tree → Except Fault (List Statement)
  | [] => return []
  | child :: rest => do
    if child.isPart then
      let statement ← lower level child
      return statement :: (← lowerAll level rest)
    else lowerAll level rest

/-- The body in a field of a statement, if the field is filled. -/
def lowerField (level : Nat) (field : String) : List Tree → Option (Except Fault Statement)
  | [] => none
  | child :: rest =>
    if child.info.fields.contains field then some (lower (bodyLevel level child) child)
    else lowerField level field rest

/-- The statement after `else`, if there is one. -/
def lowerElse (level : Nat) : List Tree → Option (Except Fault (Option Statement))
  | [] => none
  | node info children :: rest =>
    if info.fields.contains "alternative" then some (lowerFirst level children)
    else lowerElse level rest

/-- The first statement among children. -/
def lowerFirst (level : Nat) : List Tree → Except Fault (Option Statement)
  | [] => return none
  | child :: rest =>
    if child.isPart then some <$> lower (bodyLevel level child) child
    else lowerFirst level rest

end

/-- The statements of a script, if its tree is found and has no errors. How trees are found is a
parameter. -/
def read (tree? : String → Option Tree) (source : String) : Except Fault Statement :=
  match tree? source with
  | none => .error (.parse ⟨"Failed to parse script", none, none⟩)
  | some tree =>
    if tree.info.faulty then .error (.parse (tree.parseFault source)) else tree.lower 0

/-- A way to find the trees of scripts, or the reason why the language cannot be set up. -/
abbrev Engine := Except String (String → Option Tree)

/-- The statements of a script, read with an engine. -/
def parse (engine : Engine) (source : String) : Except Fault Statement :=
  match engine with
  | .error cause => .error (.parse ⟨"Failed to set language: " ++ cause, none, none⟩)
  | .ok tree? => read tree? source

end Flowchart.Tree
