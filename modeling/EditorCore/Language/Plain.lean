import EditorCore.Language.Cursor
import EditorCore.Style.Context
import EditorCore.Style.Registry

/-!
# Plain text

Text of no particular language: integers are the only thing highlighted.
-/

namespace EditorCore.Plain

/-- The tokenizer of plain text. -/
def tokenizer : Tokenizer := .standard

/-- The categories of plain text. -/
def registry : Registry := ⟨"Text_Lexer", [(.plain, false), (.number, false)]⟩

/-- The style of a token. -/
def styleOf (token : Token) : Category := if token.isNumber then .number else .plain

/-- The run of each token. -/
def runs (tokens : List Token) : List Run := tokens.map fun token => token.run (styleOf token)

end EditorCore.Plain
