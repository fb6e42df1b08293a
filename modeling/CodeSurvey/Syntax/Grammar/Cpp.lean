/-
  The names that C++ trees use: kinds of named nodes, tokens, and fields.
-/
import CodeSurvey.Syntax.Grammar.Basic

namespace CodeSurvey.Syntax.Grammar

/-- Kinds of named C++ nodes. -/
def cppKinds : List String :=
  ["abstract_array_declarator", "abstract_function_declarator",
   "abstract_parenthesized_declarator", "abstract_pointer_declarator",
   "abstract_reference_declarator", "access_specifier", "alias_declaration", "alignas_qualifier",
   "alignof_expression", "argument_list", "array_declarator", "assignment_expression",
   "attribute", "attribute_declaration", "attribute_specifier", "attributed_declarator",
   "attributed_statement", "auto", "base_class_clause", "binary_expression", "bitfield_clause",
   "break_statement", "call_expression", "case_statement", "cast_expression", "catch_clause",
   "char_literal", "character", "class_specifier", "co_await_expression", "co_return_statement",
   "co_yield_statement", "comma_expression", "comment", "compound_literal_expression",
   "compound_requirement", "compound_statement", "concatenated_string", "concept_definition",
   "condition_clause", "conditional_expression", "constraint_conjunction",
   "constraint_disjunction", "continue_statement", "declaration", "declaration_list", "decltype",
   "default_method_clause", "delete_expression", "delete_method_clause", "dependent_name",
   "dependent_type", "destructor_name", "do_statement", "else_clause", "enum_specifier",
   "enumerator", "enumerator_list", "escape_sequence", "explicit_function_specifier",
   "expression_statement", "extension_expression", "false", "field_declaration",
   "field_declaration_list", "field_designator", "field_expression", "field_identifier",
   "field_initializer", "field_initializer_list", "fold_expression", "for_range_loop",
   "for_statement", "friend_declaration", "function_declarator", "function_definition",
   "generic_expression", "gnu_asm_clobber_list", "gnu_asm_expression", "gnu_asm_goto_list",
   "gnu_asm_input_operand", "gnu_asm_input_operand_list", "gnu_asm_output_operand",
   "gnu_asm_output_operand_list", "gnu_asm_qualifier", "goto_statement", "identifier",
   "if_statement", "init_declarator", "init_statement", "initializer_list", "initializer_pair",
   "labeled_statement", "lambda_capture_initializer", "lambda_capture_specifier",
   "lambda_default_capture", "lambda_expression", "linkage_specification", "literal_suffix",
   "ms_based_modifier", "ms_call_modifier", "ms_declspec_modifier", "ms_pointer_modifier",
   "ms_restrict_modifier", "ms_signed_ptr_modifier", "ms_unaligned_ptr_modifier",
   "ms_unsigned_ptr_modifier", "namespace_alias_definition", "namespace_definition",
   "namespace_identifier", "nested_namespace_specifier", "new_declarator", "new_expression",
   "noexcept", "null", "number_literal", "offsetof_expression", "operator_cast", "operator_name",
   "optional_parameter_declaration", "optional_type_parameter_declaration",
   "parameter_declaration", "parameter_list", "parameter_pack_expansion",
   "parenthesized_declarator", "parenthesized_expression", "placeholder_type_specifier",
   "pointer_declarator", "pointer_expression", "pointer_type_declarator", "preproc_arg",
   "preproc_call", "preproc_def", "preproc_defined", "preproc_directive", "preproc_elif",
   "preproc_elifdef", "preproc_else", "preproc_function_def", "preproc_if", "preproc_ifdef",
   "preproc_include", "preproc_params", "primitive_type", "pure_virtual_clause",
   "qualified_identifier", "raw_string_content", "raw_string_delimiter", "raw_string_literal",
   "ref_qualifier", "reference_declarator", "requirement_seq", "requires_clause",
   "requires_expression", "return_statement", "seh_except_clause", "seh_finally_clause",
   "seh_leave_statement", "seh_try_statement", "simple_requirement", "sized_type_specifier",
   "sizeof_expression", "statement_identifier", "static_assert_declaration",
   "storage_class_specifier", "string_content", "string_literal", "struct_specifier",
   "structured_binding_declarator", "subscript_argument_list", "subscript_designator",
   "subscript_expression", "subscript_range_designator", "switch_statement", "system_lib_string",
   "template_argument_list", "template_declaration", "template_function",
   "template_instantiation", "template_method", "template_parameter_list",
   "template_template_parameter_declaration", "template_type", "this", "throw_specifier",
   "throw_statement", "trailing_return_type", "translation_unit", "true", "try_statement",
   "type_definition", "type_descriptor", "type_identifier", "type_parameter_declaration",
   "type_qualifier", "type_requirement", "unary_expression", "union_specifier",
   "update_expression", "user_defined_literal", "using_declaration", "variadic_declarator",
   "variadic_parameter_declaration", "variadic_type_parameter_declaration", "virtual_specifier",
   "while_statement"]

/-- C++ tokens. -/
def cppTokens : List String :=
  ["\n", "!", "!=", "\"", "\"\"", "#define", "#elif", "#elifdef", "#elifndef", "#else", "#endif",
   "#if", "#ifdef", "#ifndef", "#include", "%", "%=", "&", "&&", "&=", "'", "(", "()", ")", "*",
   "*=", "+", "++", "+=", ",", "-", "--", "-=", "->", "->*", ".", ".*", "...", "/", "/=", ":",
   "::", ";", "<", "<<", "<<=", "<=", "<=>", "=", "==", ">", ">=", ">>", ">>=", "?", "L\"", "L'",
   "LR\"", "NULL", "R\"", "U\"", "U'", "UR\"", "[", "[[", "[]", "]", "]]", "^", "^=", "_Alignas",
   "_Alignof", "_Atomic", "_Generic", "_Nonnull", "_Noreturn", "__alignof", "__alignof__",
   "__asm", "__asm__", "__attribute", "__attribute__", "__based", "__cdecl", "__clrcall",
   "__declspec", "__except", "__extension__", "__fastcall", "__finally", "__forceinline",
   "__inline", "__inline__", "__leave", "__restrict__", "__stdcall", "__thiscall", "__thread",
   "__try", "__unaligned", "__vectorcall", "__volatile__", "_alignof", "_unaligned", "alignas",
   "alignof", "and", "and_eq", "asm", "bitand", "bitor", "break", "case", "catch", "class",
   "co_await", "co_return", "co_yield", "compl", "concept", "const", "consteval", "constexpr",
   "constinit", "continue", "decltype", "default", "defined", "delete", "do", "else", "enum",
   "explicit", "extern", "final", "for", "friend", "goto", "if", "inline", "long", "mutable",
   "namespace", "new", "noexcept", "noreturn", "not", "not_eq", "nullptr", "offsetof",
   "operator", "or", "or_eq", "override", "private", "protected", "public", "register",
   "requires", "restrict", "return", "short", "signed", "sizeof", "static", "static_assert",
   "struct", "switch", "template", "thread_local", "throw", "try", "typedef", "typename", "u\"",
   "u'", "u8\"", "u8'", "u8R\"", "uR\"", "union", "unsigned", "using", "virtual", "volatile",
   "while", "xor", "xor_eq", "\x7b", "|", "|=", "||", "\x7d", "~"]

/-- Fields of C++ nodes. -/
def cppFields : List String :=
  ["alternative", "argument", "arguments", "assembly_code", "base", "body", "captures",
   "clobbers", "condition", "consequence", "constraint", "declarator", "default_type",
   "default_value", "delimiter", "designator", "directive", "end", "field", "filter", "function",
   "goto_labels", "indices", "initializer", "input_operands", "label", "left", "length",
   "member", "message", "name", "operand", "operator", "output_operands", "parameters", "path",
   "pattern", "placement", "prefix", "register", "requirements", "right", "scope", "size",
   "start", "symbol", "template_parameters", "type", "update", "value"]

/-- The grammar of C++. -/
def cpp : Grammar := ⟨"cpp", cppKinds, cppTokens, cppFields⟩

end CodeSurvey.Syntax.Grammar
