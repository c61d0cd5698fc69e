import EditorCore.Language.Grammar

/-!
# The grammar of Python
-/

namespace EditorCore.Python

/-- The keywords, declaration words left out. -/
def keywords : List String :=
  ["and", "as", "assert", "async", "await", "break", "continue", "del", "elif", "else", "except",
    "finally", "for", "from", "global", "if", "import", "in", "is", "lambda", "nonlocal", "not",
    "or", "pass", "raise", "return", "try", "while", "with", "yield"]

/-- The names of constants. -/
def constants : List String := ["self", "cls", "None", "True", "False"]

/-- The names of built-in functions and types. -/
def builtins : List String :=
  ["abs", "all", "any", "ascii", "bin", "bool", "bytearray", "bytes", "callable", "chr",
    "classmethod", "compile", "complex", "delattr", "dict", "dir", "divmod", "enumerate", "eval",
    "exec", "filter", "float", "format", "frozenset", "getattr", "globals", "hasattr", "hash",
    "help", "hex", "id", "input", "int", "isinstance", "issubclass", "iter", "len", "list",
    "locals", "map", "max", "memoryview", "min", "next", "object", "oct", "open", "ord", "pow",
    "print", "property", "range", "repr", "reversed", "round", "set", "setattr", "slice",
    "sorted", "staticmethod", "str", "sum", "super", "tuple", "type", "vars", "zip"]

/-- The endings of the names of program files. -/
def extensions : List String := ["py", "pyw", "pyi"]

/-- The words and characters of the language. -/
def grammar : Grammar where
  kind := .python
  name := "Python_Lexer"
  commentLeads := [.hash]
  keywords := keywords
  constants := constants
  builtins := builtins
  declarations := [("class", .classLike), ("def", .function)]
  classFollowers := [':', '(']
  quotes := ['"', '\'']
  brackets := ['(', ')', '[', ']', '{', '}']
  operators := ['+', '-', '*', '/', '%', '=', '<', '>']

end EditorCore.Python
