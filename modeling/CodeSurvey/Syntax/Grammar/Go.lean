/-
  The names that Go trees use: kinds of named nodes, tokens, and fields.
-/
import CodeSurvey.Syntax.Grammar.Basic

namespace CodeSurvey.Syntax.Grammar

/-- Kinds of named Go nodes. -/
def goKinds : List String :=
  ["argument_list", "array_type", "assignment_statement", "binary_expression",
   "blank_identifier", "block", "break_statement", "call_expression", "channel_type", "comment",
   "communication_case", "composite_literal", "const_declaration", "const_spec",
   "continue_statement", "dec_statement", "default_case", "defer_statement", "dot",
   "empty_statement", "escape_sequence", "expression_case", "expression_list",
   "expression_statement", "expression_switch_statement", "fallthrough_statement", "false",
   "field_declaration", "field_declaration_list", "field_identifier", "float_literal",
   "for_clause", "for_statement", "func_literal", "function_declaration", "function_type",
   "generic_type", "go_statement", "goto_statement", "identifier", "if_statement",
   "imaginary_literal", "implicit_length_array_type", "import_declaration", "import_spec",
   "import_spec_list", "inc_statement", "index_expression", "int_literal", "interface_type",
   "interpreted_string_literal", "interpreted_string_literal_content", "iota", "keyed_element",
   "label_name", "labeled_statement", "literal_element", "literal_value", "map_type",
   "method_declaration", "method_elem", "negated_type", "nil", "package_clause",
   "package_identifier", "parameter_declaration", "parameter_list", "parenthesized_expression",
   "parenthesized_type", "pointer_type", "qualified_type", "range_clause", "raw_string_literal",
   "raw_string_literal_content", "receive_statement", "return_statement", "rune_literal",
   "select_statement", "selector_expression", "send_statement", "short_var_declaration",
   "slice_expression", "slice_type", "source_file", "struct_type", "true", "type_alias",
   "type_arguments", "type_assertion_expression", "type_case", "type_constraint",
   "type_conversion_expression", "type_declaration", "type_elem", "type_identifier",
   "type_instantiation_expression", "type_parameter_declaration", "type_parameter_list",
   "type_spec", "type_switch_statement", "unary_expression", "var_declaration", "var_spec",
   "var_spec_list", "variadic_argument", "variadic_parameter_declaration"]

/-- Go tokens. -/
def goTokens : List String :=
  ["", "!", "!=", "\"", "%", "%=", "&", "&&", "&=", "&^", "&^=", "(", ")", "*", "*=", "+", "++",
   "+=", ",", "-", "--", "-=", ".", "...", "/", "/=", ":", ":=", ";", "<", "<-", "<<", "<<=",
   "<=", "=", "==", ">", ">=", ">>", ">>=", "[", "]", "^", "^=", "`", "break", "case", "chan",
   "const", "continue", "default", "defer", "else", "fallthrough", "for", "func", "go", "goto",
   "if", "import", "interface", "map", "package", "range", "return", "select", "struct",
   "switch", "type", "var", "\x7b", "|", "|=", "||", "\x7d", "~"]

/-- Fields of Go nodes. -/
def goFields : List String :=
  ["alias", "alternative", "arguments", "body", "capacity", "channel", "communication",
   "condition", "consequence", "element", "end", "field", "function", "index", "initializer",
   "key", "label", "left", "length", "name", "operand", "operator", "package", "parameters",
   "path", "receiver", "result", "right", "start", "tag", "type", "type_arguments",
   "type_parameters", "update", "value"]

/-- The grammar of Go. -/
def go : Grammar := ⟨"go", goKinds, goTokens, goFields⟩

end CodeSurvey.Syntax.Grammar
