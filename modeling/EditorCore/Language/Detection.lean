import EditorCore.File.Path
import EditorCore.Language.Lexer

/-!
# Telling the language of a file

The language of a file follows from the extension of its name.
-/

namespace EditorCore

namespace Language

/-- The endings of the names of rule files. -/
def rulesExtension : String := "prs"

/-- The language for an extension, with or without its dot; the case of letters does not count. -/
def ofExtension (extension : Name) : Language :=
  let ending := String.ofList (Text.lowercase (extension.dropWhile (· == '.')))
  if ending = rulesExtension then .rules
  else if ending ∈ Python.extensions then .python
  else if ending ∈ C.extensions then .c
  else .text

/-- The language of the file that a path leads to. -/
def ofPath (path : Path) : Language :=
  match path.extension? with
  | some extension => ofExtension extension
  | none => .text

end Language

/-- The lexer for the file that a path leads to. -/
def Lexer.ofPath (path : Path) : Lexer := .ofLanguage (.ofPath path)

@[simp] theorem Lexer.language_ofPath (path : Path) :
    (Lexer.ofPath path).language = .ofPath path := by
  simp [Lexer.ofPath]

end EditorCore
