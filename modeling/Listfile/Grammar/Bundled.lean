import Listfile.Grammar.Definition

/-!
# The bundled grammars

* `cmake`: list files and scripts.
* `cmakeCache`: the cache file, one entry to a line.
-/

namespace Listfile.Grammar

/-! ### Items -/

/-- A pattern that matches one of the given words. -/
def oneOf (words : List String) : String := String.intercalate "|" words

/-- A placeholder for a variable. -/
def use (variable_ : String) : String := "\x7b\x7b" ++ variable_ ++ "\x7d\x7d"

/-- Text without a scope of its own. -/
def skip (pattern : String) : Item := .rule pattern none [] none none false

/-- Text with a scope. -/
def mark (pattern scope : String) : Item := .rule pattern (some scope) [] none none false

/-- Text whose groups have scopes. -/
def split (pattern : String) (scope : Option String) (captures : List (Nat × String)) : Item :=
  .rule pattern scope captures none none false

/-- Text with a scope that enters a context. -/
def enter (pattern scope context : String) : Item :=
  .rule pattern (some scope) [] (some (.named context)) none false

/-- Text with a scope that leaves the context. -/
def leave (pattern scope : String) : Item := .rule pattern (some scope) [] none none true

/-- A name, matched under the given flags, and a parenthesis behind it: they open the arguments of a
command. -/
def invoke (flags name scope context : String) : Item :=
  .rule (flags ++ r"\b(" ++ name ++ r")\s*(\()") none
    [(1, scope), (2, "punctuation.section.parens.begin.cmake")] (some (.named context)) none false

/-- The scope of all that stands in a context. -/
def within (scope : String) : Item := .about (some scope) none none

/-! ### List files -/

/-- Commands that direct the flow of control. -/
def controlCommands : List String := [
  "if", "elseif", "else", "endif", "foreach", "endforeach", "while", "endwhile", "endfunction",
  "endmacro", "return", "break", "continue", "block", "endblock"]

/-- Commands that every list file may use. -/
def builtinCommands : List String := [
  "add_compile_definitions", "add_compile_options", "add_custom_command", "add_custom_target",
  "add_definitions", "add_dependencies", "add_executable", "add_library", "add_link_options",
  "add_subdirectory", "add_test", "aux_source_directory", "cmake_host_system_information",
  "cmake_language", "cmake_minimum_required", "cmake_parse_arguments", "cmake_path", "cmake_policy",
  "configure_file", "create_test_sourcelist", "define_property", "enable_language",
  "enable_testing", "execute_process", "export", "file", "find_file", "find_library",
  "find_package", "find_path", "find_program", "get_cmake_property", "get_directory_property",
  "get_filename_component", "get_property", "get_source_file_property", "get_target_property",
  "get_test_property", "include_directories", "include_external_msproject", "include_guard",
  "include_regular_expression", "include", "install", "link_directories", "link_libraries", "list",
  "load_cache", "mark_as_advanced", "math", "message", "option", "project", "remove_definitions",
  "separate_arguments", "set_directory_properties", "set_property", "set_source_files_properties",
  "set_target_properties", "set_tests_properties", "set", "site_name", "source_group", "string",
  "target_compile_definitions", "target_compile_features", "target_compile_options",
  "target_include_directories", "target_link_directories", "target_link_libraries",
  "target_link_options", "target_precompile_headers", "target_sources", "try_compile", "try_run",
  "unset", "variable_watch"]

/-- Words that are operators of conditions. -/
def operators : List String := [
  "NOT", "AND", "OR", "EXISTS", "IS_NEWER_THAN", "IS_DIRECTORY", "IS_SYMLINK", "IS_ABSOLUTE",
  "IS_READABLE", "IS_WRITABLE", "IS_EXECUTABLE", "MATCHES", "LESS_EQUAL", "GREATER_EQUAL", "LESS",
  "GREATER", "EQUAL", "STRLESS_EQUAL", "STRGREATER_EQUAL", "STRLESS", "STRGREATER", "STREQUAL",
  "VERSION_LESS_EQUAL", "VERSION_GREATER_EQUAL", "VERSION_LESS", "VERSION_GREATER", "VERSION_EQUAL",
  "PATH_EQUAL", "IN_LIST", "DEFINED"]

/-- Words that structure the arguments of commands. -/
def argumentKeywords : List String := [
  "PUBLIC", "PRIVATE", "INTERFACE", "REQUIRED", "QUIET", "COMPONENTS", "OPTIONAL_COMPONENTS",
  "CONFIG", "MODULE", "NO_MODULE", "VERSION", "LANGUAGES", "DESCRIPTION", "HOMEPAGE_URL", "CACHE",
  "FORCE", "PARENT_SCOPE", "STATIC", "SHARED", "OBJECT", "IMPORTED", "ALIAS", "GLOBAL",
  "EXCLUDE_FROM_ALL", "WIN32", "MACOSX_BUNDLE", "TARGETS", "TARGET", "DESTINATION", "FILES",
  "DIRECTORY", "PROGRAMS", "RUNTIME", "ARCHIVE", "LIBRARY", "INCLUDES", "COMMAND", "DEPENDS",
  "OUTPUT", "WORKING_DIRECTORY", "COMMENT", "VERBATIM", "APPEND", "PROPERTIES", "PROPERTY",
  "SOURCES", "FATAL_ERROR", "SEND_ERROR", "AUTHOR_WARNING", "WARNING", "DEPRECATION", "STATUS",
  "VERBOSE", "DEBUG", "TRACE", "NOTICE", "CHECK_START", "CHECK_PASS", "CHECK_FAIL", "IN", "ITEMS",
  "LISTS", "RANGE", "ZIP_LISTS", "BOOL", "STRING", "PATH", "FILEPATH", "INTERNAL"]

/-- The variables of the grammar for list files. Words are keywords only when they stand alone. -/
def cmakeVariables : List (String × String) := [
  ("argument_keywords", oneOf argumentKeywords),
  ("builtin_commands", oneOf builtinCommands),
  ("constants", "ON|OFF|TRUE|FALSE|YES|NO|IGNORE|NOTFOUND|[A-Za-z0-9_]+-NOTFOUND"),
  ("control_commands", oneOf controlCommands),
  ("identifier", "[A-Za-z_][A-Za-z0-9_]*"),
  ("operators", oneOf operators),
  ("unquoted_element",
    "(?:[^\\s()#\"\\\\$;]|\\$(?!\\\x7b|ENV\\\x7b|CACHE\\\x7b|<|\\())"),
  ("word_end", r"(?![\w.\-/])"),
  ("word_start", r"(?<![\w.\-/])")]

/-- A pattern for a word that stands alone. -/
def alone (pattern : String) : String := use "word_start" ++ pattern ++ use "word_end"

/-- The items of a context for a reference between two marks, with the scope of its text. -/
def reference (scope closing : String) (inner : List Item) (name : String) : List Item :=
  [within scope, leave closing "punctuation.definition.variable.end.cmake",
    .incl "variable_references"] ++ inner ++ [mark r"[A-Za-z0-9/_.+\-]+" name]

/-- The items of a context for bracketed text. It ends with as many equals signs between brackets as it
began with. -/
def bracketed (scope closing : String) : List Item :=
  [within scope, leave r"\]\1\]" closing, skip r"[^\]]+", skip r"\]"]

/-- The contexts of the grammar for list files. -/
def cmakeContexts : List (String × List Item) := [
  ("arguments", [
    leave r"\)" "punctuation.section.parens.end.cmake",
    enter r"\(" "punctuation.section.parens.begin.cmake" "arguments",
    .incl "comments",
    enter r"\[(=*)\[" "punctuation.definition.string.begin.cmake" "bracket_argument",
    enter "\"" "punctuation.definition.string.begin.cmake" "quoted_argument",
    .incl "variable_references",
    .incl "escapes",
    mark ";" "punctuation.separator.sequence.cmake",
    mark (alone ("(?:" ++ use "operators" ++ ")")) "keyword.operator.word.cmake",
    mark (alone ("(?:" ++ use "argument_keywords" ++ ")")) "keyword.other.cmake",
    mark (alone ("(?:" ++ use "constants" ++ ")")) "constant.language.cmake",
    mark (alone r"-?[0-9]+(?:\.[0-9]+)*") "constant.numeric.cmake",
    mark (use "unquoted_element" ++ "+") "string.unquoted.cmake"]),
  ("bracket_argument",
    bracketed "string.quoted.other.bracket.cmake" "punctuation.definition.string.end.cmake"),
  ("bracket_comment",
    bracketed "comment.block.bracket.cmake" "punctuation.definition.comment.end.cmake"),
  ("cache_reference",
    reference "meta.interpolation.cache.cmake" "\\\x7d" [.incl "escapes"] "variable.other.cache.cmake"),
  ("comments", [
    enter r"#\[(=*)\[" "punctuation.definition.comment.begin.cmake" "bracket_comment",
    enter "#" "punctuation.definition.comment.cmake" "line_comment"]),
  ("definition_name", [
    .incl "comments",
    .rule (use "identifier") (some "entity.name.function.cmake") [] none (some (.named "arguments"))
      false,
    leave r"\)" "punctuation.section.parens.end.cmake",
    .rule r"(?=\S)" none [] none (some (.named "arguments")) false]),
  ("environment_reference",
    reference "meta.interpolation.environment.cmake" "\\\x7d" [.incl "escapes"]
      "variable.other.environment.cmake"),
  ("escapes", [
    mark r"\\(?:[^A-Za-z0-9;]|[trn;])" "constant.character.escape.cmake",
    mark r"\\[A-Za-z0-9]" "invalid.illegal.escape.cmake"]),
  ("generator_expression", [
    within "meta.generator-expression.cmake",
    leave ">" "punctuation.definition.generator-expression.end.cmake",
    .incl "variable_references",
    mark r"(?<=\$<)[A-Za-z0-9_]+" "support.function.generator-expression.cmake",
    mark ":" "punctuation.separator.generator-expression.cmake",
    mark "[,;]" "punctuation.separator.sequence.cmake",
    mark r"[^$>:,;\s]+" "string.unquoted.cmake"]),
  ("line_comment", [
    within "comment.line.number-sign.cmake",
    .rule "$" none [] none none true,
    skip ".+"]),
  ("main", [
    .incl "comments",
    invoke "(?i)" "function|macro" "keyword.declaration.function.cmake"
      "definition_name",
    invoke "(?i)" (use "control_commands") "keyword.control.cmake" "arguments",
    invoke "(?i)" (use "builtin_commands") "support.function.cmake" "arguments",
    invoke "" (use "identifier") "variable.function.cmake" "arguments"]),
  ("make_reference", reference "meta.interpolation.make.cmake" r"\)" [] "variable.other.make.cmake"),
  ("quoted_argument", [
    within "string.quoted.double.cmake",
    leave "\"" "punctuation.definition.string.end.cmake",
    .incl "escapes",
    mark r"\\$" "constant.character.escape.continuation.cmake",
    .incl "variable_references",
    mark ";" "punctuation.separator.sequence.cmake",
    skip "[^\"\\\\$;]+",
    skip r"\$"]),
  ("variable_reference",
    reference "meta.interpolation.variable.cmake" "\\\x7d" [.incl "escapes"]
      "variable.other.readwrite.cmake"),
  ("variable_references", [
    enter "\\$\\\x7b" "punctuation.definition.variable.begin.cmake" "variable_reference",
    enter "\\$ENV\\\x7b" "punctuation.definition.variable.begin.cmake" "environment_reference",
    enter "\\$CACHE\\\x7b" "punctuation.definition.variable.begin.cmake" "cache_reference",
    enter r"\$\(" "punctuation.definition.variable.begin.cmake" "make_reference",
    enter r"\$<" "punctuation.definition.generator-expression.begin.cmake" "generator_expression"])]

/-- The grammar for list files and scripts. Text that no rule matches has no scope. -/
def cmake : Definition :=
  { name := "CMake"
    scope := "source.cmake"
    fileExtensions := ["CMakeLists.txt", "cmake"]
    hidden := false
    vars := cmakeVariables
    contexts := cmakeContexts }

/-! ### The cache -/

/-- The grammar for the cache file. Each line is a comment or an entry: a key, a type and a value. -/
def cmakeCache : Definition :=
  { name := "CMakeCache"
    scope := "source.cmakecache"
    fileExtensions := ["CMakeCache.txt"]
    hidden := false
    vars := [("cache_type", "BOOL|PATH|FILEPATH|STRING|INTERNAL|STATIC|UNINITIALIZED")]
    contexts := [("main", [
      split r"^\s*(//).*$" (some "comment.line.double-slash.cmakecache")
        [(1, "punctuation.definition.comment.cmakecache")],
      split r"^\s*(#).*$" (some "comment.line.number-sign.cmakecache")
        [(1, "punctuation.definition.comment.cmakecache")],
      split (r#"^("[^"]*"|[^:=#/\s][^:=]*?)(?:(:)("# ++ use "cache_type" ++ "))?(=)(.*)$") none
        [(1, "variable.other.cache.cmakecache"),
          (2, "punctuation.separator.type.cmakecache"),
          (3, "storage.type.cmakecache"),
          (4, "keyword.operator.assignment.cmakecache"),
          (5, "string.unquoted.value.cmakecache")]])] }

/-- All bundled grammars. -/
def bundled : List Definition := [cmake, cmakeCache]

end Listfile.Grammar
