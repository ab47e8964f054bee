import Flowchart.Grammar.Rule

/-! The grammar of JavaScript, looser than the language: `return` may stand anywhere, early errors
are not looked for, and elements of markup are expressions. -/
namespace Flowchart.Script

open Flowchart.Grammar
open Flowchart.Grammar.Rule

private def ref (name : String) : Rule := .symbol name

private def propertyIdentifier : Rule := .called "property_identifier" (ref "identifier")

private def anyIdentifier : Rule := .oneOf [ref "identifier", ref "_reserved_identifier"]

private def decorators : Rule := .many (.field "decorator" (ref "decorator"))

private def binary (operator : String) (bind : Rule → Rule) : Rule :=
  bind (.seq [
    .field "left" (ref "expression"),
    .field "operator" (.text operator),
    .field "right" (ref "expression")])

private def moduleRules : List (String × Rule) := [
  ("program", .seq [.optional (ref "hash_bang_line"), .many (ref "statement")]),
  ("hash_bang_line", .lexeme),
  ("export_statement", .oneOf [
    .seq [
      .text "export",
      .oneOf [
        .seq [.text "*", ref "_from_clause"],
        .seq [ref "namespace_export", ref "_from_clause"],
        .seq [ref "export_clause", ref "_from_clause"],
        ref "export_clause"],
      ref "_semicolon"],
    .seq [
      decorators,
      .text "export",
      .oneOf [
        .field "declaration" (ref "declaration"),
        .seq [
          .text "default",
          .oneOf [
            .field "declaration" (ref "declaration"),
            .seq [.field "value" (ref "expression"), ref "_semicolon"]]]]]]),
  ("namespace_export", .seq [.text "*", .text "as", ref "_module_export_name"]),
  ("export_clause", .seq [
    .text "\x7b", .commaSep (ref "export_specifier"), .optional (.text ","), .text "\x7d"]),
  ("export_specifier", .seq [
    .field "name" (ref "_module_export_name"),
    .optional (.seq [.text "as", .field "alias" (ref "_module_export_name")])]),
  ("_module_export_name", .oneOf [ref "identifier", ref "string"]),
  ("declaration", .oneOf [
    ref "function_declaration", ref "generator_function_declaration", ref "class_declaration",
    ref "lexical_declaration", ref "variable_declaration"]),
  ("import", .text "import"),
  ("import_statement", .seq [
    .text "import",
    .oneOf [
      .seq [ref "import_clause", ref "_from_clause"],
      .field "source" (ref "string")],
    .optional (ref "import_attribute"),
    ref "_semicolon"]),
  ("import_clause", .oneOf [
    ref "namespace_import",
    ref "named_imports",
    .seq [
      ref "identifier",
      .optional (.seq [.text ",", .oneOf [ref "namespace_import", ref "named_imports"]])]]),
  ("_from_clause", .seq [.text "from", .field "source" (ref "string")]),
  ("namespace_import", .seq [.text "*", .text "as", ref "identifier"]),
  ("named_imports", .seq [
    .text "\x7b", .commaSep (ref "import_specifier"), .optional (.text ","), .text "\x7d"]),
  ("import_specifier", .oneOf [
    .field "name" (ref "identifier"),
    .seq [
      .field "name" (ref "_module_export_name"), .text "as", .field "alias" (ref "identifier")]]),
  ("import_attribute", .seq [.text "with", ref "object"])]

private def statementRules : List (String × Rule) := [
  ("statement", .oneOf [
    ref "export_statement", ref "import_statement", ref "debugger_statement",
    ref "expression_statement", ref "declaration", ref "statement_block",
    ref "if_statement", ref "switch_statement", ref "for_statement", ref "for_in_statement",
    ref "while_statement", ref "do_statement", ref "try_statement", ref "with_statement",
    ref "break_statement", ref "continue_statement", ref "return_statement",
    ref "throw_statement", ref "empty_statement", ref "labeled_statement"]),
  ("expression_statement", .seq [ref "_expressions", ref "_semicolon"]),
  ("variable_declaration", .seq [
    .text "var", .commaSep1 (ref "variable_declarator"), ref "_semicolon"]),
  ("lexical_declaration", .seq [
    .field "kind" (.oneOf [.text "let", .text "const"]),
    .commaSep1 (ref "variable_declarator"),
    ref "_semicolon"]),
  ("variable_declarator", .seq [
    .field "name" (.oneOf [ref "identifier", ref "_destructuring_pattern"]),
    .optional (ref "_initializer")]),
  ("statement_block", .groupRight (.seq [
    .text "\x7b", .many (ref "statement"), .text "\x7d", .optional (ref "_automatic_semicolon")])),
  ("else_clause", .seq [.text "else", ref "statement"]),
  ("if_statement", .groupRight (.seq [
    .text "if",
    .field "condition" (ref "parenthesized_expression"),
    .field "consequence" (ref "statement"),
    .optional (.field "alternative" (ref "else_clause"))])),
  ("switch_statement", .seq [
    .text "switch",
    .field "value" (ref "parenthesized_expression"),
    .field "body" (ref "switch_body")]),
  ("for_statement", .seq [
    .text "for",
    .text "(",
    .field "initializer" (.oneOf [
      ref "lexical_declaration", ref "variable_declaration", ref "expression_statement",
      ref "empty_statement"]),
    .field "condition" (.oneOf [ref "expression_statement", ref "empty_statement"]),
    .field "increment" (.optional (ref "_expressions")),
    .text ")",
    .field "body" (ref "statement")]),
  ("for_in_statement", .seq [
    .text "for",
    .optional (.text "await"),
    ref "_for_header",
    .field "body" (ref "statement")]),
  ("_for_header", .seq [
    .text "(",
    .oneOf [
      .field "left" (.oneOf [ref "_lhs_expression", ref "parenthesized_expression"]),
      .seq [
        .field "kind" (.text "var"),
        .field "left" (.oneOf [ref "identifier", ref "_destructuring_pattern"]),
        .optional (ref "_initializer")],
      .seq [
        .field "kind" (.oneOf [.text "let", .text "const"]),
        .field "left" (.oneOf [ref "identifier", ref "_destructuring_pattern"]),
        .optional (ref "_automatic_semicolon")]],
    .field "operator" (.oneOf [.text "in", .text "of"]),
    .field "right" (ref "_expressions"),
    .text ")"]),
  ("while_statement", .seq [
    .text "while",
    .field "condition" (ref "parenthesized_expression"),
    .field "body" (ref "statement")]),
  ("do_statement", .groupRight (.seq [
    .text "do",
    .field "body" (ref "statement"),
    .text "while",
    .field "condition" (ref "parenthesized_expression"),
    .optional (ref "_semicolon")])),
  ("try_statement", .seq [
    .text "try",
    .field "body" (ref "statement_block"),
    .optional (.field "handler" (ref "catch_clause")),
    .optional (.field "finalizer" (ref "finally_clause"))]),
  ("with_statement", .seq [
    .text "with",
    .field "object" (ref "parenthesized_expression"),
    .field "body" (ref "statement")]),
  ("break_statement", .seq [
    .text "break",
    .field "label" (.optional (.called "statement_identifier" (ref "identifier"))),
    ref "_semicolon"]),
  ("continue_statement", .seq [
    .text "continue",
    .field "label" (.optional (.called "statement_identifier" (ref "identifier"))),
    ref "_semicolon"]),
  ("debugger_statement", .seq [.text "debugger", ref "_semicolon"]),
  ("return_statement", .seq [
    .text "return", .optional (ref "_expressions"), ref "_semicolon"]),
  ("throw_statement", .seq [.text "throw", ref "_expressions", ref "_semicolon"]),
  ("empty_statement", .text ";"),
  ("labeled_statement", .weighing (-1) (.seq [
    .field "label" (.called "statement_identifier" anyIdentifier),
    .text ":",
    .field "body" (ref "statement")])),
  ("switch_body", .seq [
    .text "\x7b", .many (.oneOf [ref "switch_case", ref "switch_default"]), .text "\x7d"]),
  ("switch_case", .seq [
    .text "case",
    .field "value" (ref "_expressions"),
    .text ":",
    .field "body" (.many (ref "statement"))]),
  ("switch_default", .seq [
    .text "default", .text ":", .field "body" (.many (ref "statement"))]),
  ("catch_clause", .seq [
    .text "catch",
    .optional (.seq [
      .text "(",
      .field "parameter" (.oneOf [ref "identifier", ref "_destructuring_pattern"]),
      .text ")"]),
    .field "body" (ref "statement_block")]),
  ("finally_clause", .seq [.text "finally", .field "body" (ref "statement_block")]),
  ("parenthesized_expression", .seq [.text "(", ref "_expressions", .text ")"])]

private def expressionRules : List (String × Rule) := [
  ("_expressions", .oneOf [ref "expression", ref "sequence_expression"]),
  ("expression", .oneOf [
    ref "primary_expression", ref "glimmer_template", ref "_jsx_element",
    ref "assignment_expression", ref "augmented_assignment_expression", ref "await_expression",
    ref "unary_expression", ref "binary_expression", ref "ternary_expression",
    ref "update_expression", ref "new_expression", ref "yield_expression"]),
  ("primary_expression", .oneOf [
    ref "subscript_expression", ref "member_expression", ref "parenthesized_expression",
    ref "_identifier", .called "identifier" (ref "_reserved_identifier"),
    ref "this", ref "super", ref "number", ref "string", ref "template_string", ref "regex",
    ref "true", ref "false", ref "null", ref "object", ref "array", ref "function_expression",
    ref "arrow_function", ref "generator_function", ref "class", ref "meta_property",
    ref "call_expression"]),
  ("yield_expression", .groupRight (.seq [
    .text "yield",
    .oneOf [.seq [.text "*", ref "expression"], .optional (ref "expression")]])),
  ("object", .strength "object" (.seq [
    .text "\x7b",
    .commaSep (.optional (.oneOf [
      ref "pair", ref "spread_element", ref "method_definition",
      .called "shorthand_property_identifier" anyIdentifier])),
    .text "\x7d"])),
  ("object_pattern", .strength "object" (.seq [
    .text "\x7b",
    .commaSep (.optional (.oneOf [
      ref "pair_pattern", ref "rest_pattern", ref "object_assignment_pattern",
      .called "shorthand_property_identifier_pattern" anyIdentifier])),
    .text "\x7d"])),
  ("assignment_pattern", .seq [
    .field "left" (ref "pattern"), .text "=", .field "right" (ref "expression")]),
  ("object_assignment_pattern", .seq [
    .field "left" (.oneOf [
      .called "shorthand_property_identifier_pattern"
        (.oneOf [ref "_reserved_identifier", ref "identifier"]),
      ref "_destructuring_pattern"]),
    .text "=",
    .field "right" (ref "expression")]),
  ("array", .seq [
    .text "[",
    .commaSep (.optional (.oneOf [ref "expression", ref "spread_element"])),
    .text "]"]),
  ("array_pattern", .seq [
    .text "[",
    .commaSep (.optional (.oneOf [ref "pattern", ref "assignment_pattern"])),
    .text "]"])]

private def markupRules : List (String × Rule) := [
  ("glimmer_template", .oneOf [
    .seq [
      .field "open_tag" (ref "glimmer_opening_tag"),
      .field "content" (.many (ref "_glimmer_template_content")),
      .field "close_tag" (ref "glimmer_closing_tag")],
    .seq [
      .field "open_tag" (ref "glimmer_opening_tag"),
      .field "close_tag" (ref "glimmer_closing_tag")]]),
  ("_glimmer_template_content", .lexeme),
  ("glimmer_opening_tag", .lexeme),
  ("glimmer_closing_tag", .lexeme),
  ("jsx_element", .seq [
    .field "open_tag" (ref "jsx_opening_element"),
    .many (ref "_jsx_child"),
    .field "close_tag" (ref "jsx_closing_element")]),
  ("html_character_reference", .lexeme),
  ("jsx_expression", .seq [
    .text "\x7b",
    .optional (.oneOf [ref "expression", ref "sequence_expression", ref "spread_element"]),
    .text "\x7d"]),
  ("_jsx_child", .oneOf [
    ref "jsx_text", ref "html_character_reference", ref "_jsx_element", ref "jsx_expression"]),
  ("jsx_opening_element", .weighing (-1) (.seq [
    .text "<",
    .optional (.seq [
      .field "name" (ref "_jsx_element_name"),
      .many (.field "attribute" (ref "_jsx_attribute"))]),
    .text ">"])),
  ("jsx_identifier", .lexeme),
  ("_jsx_identifier", .oneOf [ref "jsx_identifier", ref "identifier"]),
  ("nested_identifier", .strength "member" (.seq [
    .field "object" (.oneOf [ref "identifier", ref "nested_identifier"]),
    .text ".",
    .field "property" propertyIdentifier])),
  ("jsx_namespace_name", .seq [ref "_jsx_identifier", .text ":", ref "_jsx_identifier"]),
  ("_jsx_element_name", .oneOf [
    ref "_jsx_identifier", ref "nested_identifier", ref "jsx_namespace_name"]),
  ("jsx_closing_element", .seq [
    .text "</", .optional (.field "name" (ref "_jsx_element_name")), .text ">"]),
  ("jsx_self_closing_element", .seq [
    .text "<",
    .field "name" (ref "_jsx_element_name"),
    .many (.field "attribute" (ref "_jsx_attribute")),
    .text "/>"]),
  ("_jsx_attribute", .oneOf [ref "jsx_attribute", ref "jsx_expression"]),
  ("_jsx_attribute_name", .oneOf [
    .called "property_identifier" (ref "_jsx_identifier"), ref "jsx_namespace_name"]),
  ("jsx_attribute", .seq [
    ref "_jsx_attribute_name",
    .optional (.seq [.text "=", ref "_jsx_attribute_value"])]),
  ("_jsx_string", .oneOf [
    .seq [
      .text "\"",
      .many (.oneOf [ref "double_markup_fragment", ref "html_character_reference"]),
      .text "\""],
    .seq [
      .text "'",
      .many (.oneOf [ref "single_markup_fragment", ref "html_character_reference"]),
      .text "'"]]),
  ("double_markup_fragment", .lexeme),
  ("single_markup_fragment", .lexeme),
  ("_jsx_attribute_value", .oneOf [
    ref "_jsx_string", ref "jsx_expression", ref "_jsx_element"]),
  ("_jsx_element", .oneOf [ref "jsx_element", ref "jsx_self_closing_element"])]

private def functionRules : List (String × Rule) := [
  ("class", .strength "literal" (.seq [
    decorators,
    .text "class",
    .field "name" (.optional (ref "identifier")),
    .optional (ref "class_heritage"),
    .field "body" (ref "class_body")])),
  ("class_declaration", .strength "declare" (.seq [
    decorators,
    .text "class",
    .field "name" (ref "identifier"),
    .optional (ref "class_heritage"),
    .field "body" (ref "class_body"),
    .optional (ref "_automatic_semicolon")])),
  ("class_heritage", .seq [.text "extends", ref "expression"]),
  ("function_expression", .strength "literal" (.seq [
    .optional (.text "async"),
    .text "function",
    .field "name" (.optional (ref "identifier")),
    ref "_call_signature",
    .field "body" (ref "statement_block")])),
  ("function_declaration", .rightOf "declare" (.seq [
    .optional (.text "async"),
    .text "function",
    .field "name" (ref "identifier"),
    ref "_call_signature",
    .field "body" (ref "statement_block"),
    .optional (ref "_automatic_semicolon")])),
  ("generator_function", .strength "literal" (.seq [
    .optional (.text "async"),
    .text "function",
    .text "*",
    .field "name" (.optional (ref "identifier")),
    ref "_call_signature",
    .field "body" (ref "statement_block")])),
  ("generator_function_declaration", .rightOf "declare" (.seq [
    .optional (.text "async"),
    .text "function",
    .text "*",
    .field "name" (ref "identifier"),
    ref "_call_signature",
    .field "body" (ref "statement_block"),
    .optional (ref "_automatic_semicolon")])),
  ("arrow_function", .seq [
    .optional (.text "async"),
    .oneOf [
      .field "parameter" (.oneOf [
        .called "identifier" (ref "_reserved_identifier"), ref "identifier"]),
      ref "_call_signature"],
    .text "=>",
    .field "body" (.oneOf [ref "expression", ref "statement_block"])]),
  ("_call_signature", .field "parameters" (ref "formal_parameters")),
  ("_formal_parameter", .oneOf [ref "pattern", ref "assignment_pattern"])]

private def operatorRules : List (String × Rule) := [
  ("optional_chain", .lexeme),
  ("call_expression", .oneOf [
    .strength "call" (.seq [
      .field "function" (.oneOf [ref "expression", ref "import"]),
      .field "arguments" (ref "arguments")]),
    .strength "template_call" (.seq [
      .field "function" (.oneOf [ref "primary_expression", ref "new_expression"]),
      .field "arguments" (ref "template_string")]),
    .strength "member" (.seq [
      .field "function" (ref "primary_expression"),
      .field "optional_chain" (ref "optional_chain"),
      .field "arguments" (ref "arguments")])]),
  ("new_expression", .rightOf "new" (.seq [
    .text "new",
    .field "constructor" (.oneOf [ref "primary_expression", ref "new_expression"]),
    .field "arguments" (.optional (.weighing 1 (ref "arguments")))])),
  ("await_expression", .strength "unary_void" (.seq [.text "await", ref "expression"])),
  ("member_expression", .strength "member" (.seq [
    .field "object" (.oneOf [ref "expression", ref "primary_expression", ref "import"]),
    .oneOf [.text ".", .field "optional_chain" (ref "optional_chain")],
    .field "property" (.oneOf [ref "private_property_identifier", propertyIdentifier])])),
  ("subscript_expression", .rightOf "member" (.seq [
    .field "object" (.oneOf [ref "expression", ref "primary_expression"]),
    .optional (.field "optional_chain" (ref "optional_chain")),
    .text "[",
    .field "index" (ref "_expressions"),
    .text "]"])),
  ("_lhs_expression", .oneOf [
    ref "member_expression", ref "subscript_expression", ref "_identifier",
    .called "identifier" (ref "_reserved_identifier"), ref "_destructuring_pattern"]),
  ("assignment_expression", .rightOf "assign" (.seq [
    .field "left" (.oneOf [ref "parenthesized_expression", ref "_lhs_expression"]),
    .text "=",
    .field "right" (ref "expression")])),
  ("_augmented_assignment_lhs", .oneOf [
    ref "member_expression", ref "subscript_expression",
    .called "identifier" (ref "_reserved_identifier"), ref "identifier",
    ref "parenthesized_expression"]),
  ("augmented_assignment_expression", .rightOf "assign" (.seq [
    .field "left" (ref "_augmented_assignment_lhs"),
    .field "operator" (.oneOf [
      .text "+=", .text "-=", .text "*=", .text "/=", .text "%=", .text "^=", .text "&=",
      .text "|=", .text ">>=", .text ">>>=", .text "<<=", .text "**=", .text "&&=",
      .text "||=", .text "??="]),
    .field "right" (ref "expression")])),
  ("_initializer", .seq [.text "=", .field "value" (ref "expression")]),
  ("_destructuring_pattern", .oneOf [ref "object_pattern", ref "array_pattern"]),
  ("spread_element", .seq [.text "...", ref "expression"]),
  ("ternary_expression", .rightOf "ternary" (.seq [
    .field "condition" (ref "expression"),
    ref "_ternary_qmark",
    .field "consequence" (ref "expression"),
    .text ":",
    .field "alternative" (ref "expression")])),
  ("binary_expression", .oneOf [
    binary "&&" (.leftOf "logical_and"),
    binary "||" (.leftOf "logical_or"),
    binary ">>" (.leftOf "binary_shift"),
    binary ">>>" (.leftOf "binary_shift"),
    binary "<<" (.leftOf "binary_shift"),
    binary "&" (.leftOf "bitwise_and"),
    binary "^" (.leftOf "bitwise_xor"),
    binary "|" (.leftOf "bitwise_or"),
    binary "+" (.leftOf "binary_plus"),
    binary "-" (.leftOf "binary_plus"),
    binary "*" (.leftOf "binary_times"),
    binary "/" (.leftOf "binary_times"),
    binary "%" (.leftOf "binary_times"),
    binary "**" (.rightOf "binary_exp"),
    binary "<" (.leftOf "binary_relation"),
    binary "<=" (.leftOf "binary_relation"),
    binary "==" (.leftOf "binary_equality"),
    binary "===" (.leftOf "binary_equality"),
    binary "!=" (.leftOf "binary_equality"),
    binary "!==" (.leftOf "binary_equality"),
    binary ">=" (.leftOf "binary_relation"),
    binary ">" (.leftOf "binary_relation"),
    binary "??" (.leftOf "ternary"),
    binary "instanceof" (.leftOf "binary_relation"),
    .leftOf "binary_relation" (.seq [
      .field "left" (.oneOf [ref "expression", ref "private_property_identifier"]),
      .field "operator" (.text "in"),
      .field "right" (ref "expression")])]),
  ("unary_expression", .leftOf "unary_void" (.seq [
    .field "operator" (.oneOf [
      .text "!", .text "~", .text "-", .text "+", .text "typeof", .text "void",
      .text "delete"]),
    .field "argument" (ref "expression")])),
  ("update_expression", .groupLeft (.oneOf [
    .seq [
      .field "argument" (ref "expression"),
      .field "operator" (.oneOf [.text "++", .text "--"])],
    .seq [
      .field "operator" (.oneOf [.text "++", .text "--"]),
      .field "argument" (ref "expression")]])),
  ("sequence_expression", .groupRight (.commaSep1 (ref "expression")))]

private def literalRules : List (String × Rule) := [
  ("string", .oneOf [
    .seq [
      .text "\"",
      .many (.oneOf [ref "double_fragment", ref "escape_sequence"]),
      .text "\""],
    .seq [
      .text "'",
      .many (.oneOf [ref "single_fragment", ref "escape_sequence"]),
      .text "'"]]),
  ("double_fragment", .lexeme),
  ("single_fragment", .lexeme),
  ("escape_sequence", .lexeme),
  ("comment", .lexeme),
  ("template_string", .seq [
    .text "`",
    .many (.oneOf [
      ref "_template_chars", ref "escape_sequence", ref "template_substitution"]),
    .text "`"]),
  ("template_substitution", .seq [.text "$\x7b", ref "_expressions", .text "\x7d"]),
  ("regex", .seq [
    .text "/",
    .field "pattern" (ref "regex_pattern"),
    ref "regex_close",
    .optional (.field "flags" (ref "regex_flags"))]),
  ("regex_close", .lexeme),
  ("regex_pattern", .lexeme),
  ("regex_flags", .lexeme),
  ("number", .lexeme),
  ("_identifier", .oneOf [ref "undefined", ref "identifier"]),
  ("identifier", .lexeme),
  ("private_property_identifier", .lexeme),
  ("meta_property", .seq [.text "new", .text ".", .text "target"]),
  ("this", .lexeme),
  ("super", .lexeme),
  ("true", .lexeme),
  ("false", .lexeme),
  ("null", .lexeme),
  ("undefined", .lexeme)]

private def memberRules : List (String × Rule) := [
  ("arguments", .seq [
    .text "(",
    .commaSep (.optional (.oneOf [ref "expression", ref "spread_element"])),
    .text ")"]),
  ("decorator", .seq [
    .text "@",
    .oneOf [
      ref "identifier", ref "decorator_member_expression", ref "decorator_call_expression"]]),
  ("decorator_member_expression", .strength "member" (.seq [
    .field "object" (.oneOf [ref "identifier", ref "decorator_member_expression"]),
    .text ".",
    .field "property" propertyIdentifier])),
  ("decorator_call_expression", .strength "call" (.seq [
    .field "function" (.oneOf [ref "identifier", ref "decorator_member_expression"]),
    .field "arguments" (ref "arguments")])),
  ("class_body", .seq [
    .text "\x7b",
    .many (.oneOf [
      .seq [.field "member" (ref "method_definition"), .optional (.text ";")],
      .seq [.field "member" (ref "field_definition"), ref "_semicolon"],
      .field "member" (ref "class_static_block"),
      .field "template" (ref "glimmer_template"),
      .text ";"]),
    .text "\x7d"]),
  ("field_definition", .seq [
    decorators,
    .optional (.text "static"),
    .field "property" (ref "_property_name"),
    .optional (ref "_initializer")]),
  ("formal_parameters", .seq [
    .text "(",
    .optional (.seq [.commaSep1 (ref "_formal_parameter"), .optional (.text ",")]),
    .text ")"]),
  ("class_static_block", .seq [
    .text "static", .optional (ref "_automatic_semicolon"),
    .field "body" (ref "statement_block")]),
  ("pattern", .weighing (-1) (.oneOf [ref "_lhs_expression", ref "rest_pattern"])),
  ("rest_pattern", .groupRight (.seq [.text "...", ref "_lhs_expression"])),
  ("method_definition", .seq [
    decorators,
    .optional (.oneOf [.text "static", ref "static_get"]),
    .optional (.text "async"),
    .optional (.oneOf [.text "get", .text "set", .text "*"]),
    .field "name" (ref "_property_name"),
    .field "parameters" (ref "formal_parameters"),
    .field "body" (ref "statement_block")]),
  ("static_get", .lexeme),
  ("pair", .seq [
    .field "key" (ref "_property_name"), .text ":", .field "value" (ref "expression")]),
  ("pair_pattern", .seq [
    .field "key" (ref "_property_name"),
    .text ":",
    .field "value" (.oneOf [ref "pattern", ref "assignment_pattern"])]),
  ("_property_name", .oneOf [
    .called "property_identifier" anyIdentifier,
    ref "private_property_identifier", ref "string", ref "number",
    ref "computed_property_name"]),
  ("computed_property_name", .seq [.text "[", ref "expression", .text "]"]),
  ("_reserved_identifier", .oneOf [
    .text "get", .text "set", .text "async", .text "static", .text "export", .text "let"]),
  ("_semicolon", .oneOf [ref "_automatic_semicolon", .text ";"])]

/-- The grammar of scripts. -/
def grammar : Ruleset where
  rules := moduleRules ++ statementRules ++ expressionRules ++ markupRules ++ functionRules ++
    operatorRules ++ literalRules ++ memberRules
  word := "identifier"
  labels := [
    ("nested_identifier", ⟨"member_expression", true⟩),
    ("decorator_member_expression", ⟨"member_expression", true⟩),
    ("decorator_call_expression", ⟨"call_expression", true⟩),
    ("_jsx_string", ⟨"string", true⟩),
    ("jsx_identifier", ⟨"identifier", true⟩),
    ("double_fragment", ⟨"string_fragment", true⟩),
    ("single_fragment", ⟨"string_fragment", true⟩),
    ("double_markup_fragment", ⟨"string_fragment", true⟩),
    ("single_markup_fragment", ⟨"string_fragment", true⟩),
    ("regex_close", ⟨"/", false⟩),
    ("static_get", ⟨"static get", false⟩)]
  hidden := ["statement", "declaration", "expression", "primary_expression", "pattern"]
  inlined := [
    "_call_signature", "_formal_parameter", "_expressions", "_semicolon", "_identifier",
    "_reserved_identifier", "_jsx_attribute", "_jsx_element_name", "_jsx_child", "_jsx_element",
    "_jsx_attribute_name", "_jsx_attribute_value", "_jsx_identifier", "_lhs_expression"]
  extras := ["comment", "html_comment"]
  layoutTokens := [
    ⟨"_automatic_semicolon", none⟩,
    ⟨"_template_chars", some ⟨"string_fragment", true⟩⟩,
    ⟨"_ternary_qmark", some ⟨"?", false⟩⟩,
    ⟨"html_comment", some ⟨"html_comment", true⟩⟩,
    ⟨"jsx_text", some ⟨"jsx_text", true⟩⟩]
  guarded := ["||", "escape_sequence", "regex_pattern"]
  orderings := [
    [.strength "member", .strength "template_call", .strength "call", .rule "update_expression",
      .strength "unary_void", .strength "binary_exp", .strength "binary_times",
      .strength "binary_plus", .strength "binary_shift", .strength "binary_compare",
      .strength "binary_relation", .strength "binary_equality", .strength "bitwise_and",
      .strength "bitwise_xor", .strength "bitwise_or", .strength "logical_and",
      .strength "logical_or", .strength "ternary", .rule "sequence_expression",
      .rule "arrow_function"],
    [.strength "assign", .rule "primary_expression"],
    [.strength "member", .strength "template_call", .strength "new", .strength "call",
      .rule "expression"],
    [.strength "declare", .strength "literal"],
    [.rule "primary_expression", .rule "statement_block", .strength "object"],
    [.rule "import_statement", .rule "import"],
    [.rule "export_statement", .rule "primary_expression"],
    [.rule "lexical_declaration", .rule "primary_expression"]]

end Flowchart.Script
