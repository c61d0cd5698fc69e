import EditorCore.Language.Grammar

/-!
# The grammar of C and C++
-/

namespace EditorCore.C

/-- The keywords of both languages, declaration words left out. -/
def keywords : List String :=
  ["auto", "break", "case", "char", "const", "continue", "default", "do", "double", "else",
    "extern", "float", "for", "goto", "if", "inline", "int", "long", "register", "restrict",
    "return", "short", "signed", "sizeof", "static", "switch", "typedef", "unsigned", "void",
    "volatile", "while", "_Alignas", "_Alignof", "_Atomic", "_Bool", "_Complex", "_Generic",
    "_Imaginary", "_Noreturn", "_Static_assert", "_Thread_local", "alignas", "alignof", "and",
    "asm", "bool", "catch", "concept", "consteval", "constexpr", "constinit", "const_cast",
    "co_await", "co_return", "co_yield", "decltype", "delete", "dynamic_cast", "explicit",
    "export", "friend", "mutable", "namespace", "new", "noexcept", "not", "operator", "or",
    "private", "protected", "public", "reinterpret_cast", "requires", "static_assert",
    "static_cast", "template", "thread_local", "throw", "try", "typeid", "typename", "using",
    "virtual", "xor"]

/-- The names of constants. -/
def constants : List String := ["NULL", "nullptr", "true", "false", "this"]

/-- The names of library functions. -/
def builtins : List String :=
  ["printf", "fprintf", "sprintf", "snprintf", "scanf", "malloc", "calloc", "realloc", "free",
    "memcpy", "memmove", "memset", "memcmp", "strlen", "strcpy", "strncpy", "strcmp", "strncmp",
    "strcat", "fopen", "fclose", "fread", "fwrite", "exit", "abort", "assert"]

/-- The endings of the names of program files. -/
def extensions : List String := ["c", "h", "cpp", "hpp", "cc", "cxx", "hh"]

/-- The words and characters of the language. -/
def grammar : Grammar where
  kind := .c
  name := "C_Lexer"
  commentLeads := [.slashes]
  keywords := keywords
  constants := constants
  builtins := builtins
  declarations :=
    [("class", .classLike), ("struct", .classLike), ("union", .classLike), ("enum", .classLike)]
  classFollowers := ['{', ':', ';']
  quotes := ['"', '\'']
  brackets := ['(', ')', '[', ']', '{', '}']
  operators :=
    ['+', '-', '*', '/', '%', '=', '<', '>', '!', '&', '|', '^', '~', '?', ':']

end EditorCore.C
