import EditorCore.Language.C
import EditorCore.Language.Plain
import EditorCore.Language.Python
import EditorCore.Language.Rules
import EditorCore.Token.Rule

/-!
# Lexers

What assigns styles to the tokens of a text. A lexer keeps no state: the styles
of a range depend on its tokens and on its surroundings.
-/

namespace EditorCore

/-- A way to highlight text. -/
inductive Lexer where
  /-- Only integers stand out. -/
  | plain
  /-- The text is a file of production rules. -/
  | rules
  /-- The text is a program in a language with the given grammar. -/
  | program (grammar : Grammar)
deriving DecidableEq, Repr

namespace Lexer

/-- The lexer of a language. -/
def ofLanguage : Language → Lexer
  | .text => .plain
  | .python => .program Python.grammar
  | .c => .program C.grammar
  | .rules => .rules

/-- The lexer of a grammar, which is refused if its tokenizer is. -/
def ofGrammar? (grammar : Grammar) : Except Fault Lexer :=
  (Tokenizer.ofLeads? grammar.commentLeads).map fun _ => .program grammar

/-- The language that a lexer highlights. -/
def language : Lexer → Language
  | .plain => .text
  | .rules => .rules
  | .program grammar => grammar.kind

@[simp] theorem language_ofLanguage (language : Language) :
    (ofLanguage language).language = language := by
  cases language <;> rfl

/-- How a lexer cuts text into tokens. -/
def tokenizer : Lexer → Tokenizer
  | .plain => Plain.tokenizer
  | .rules => Rules.tokenizer
  | .program grammar => grammar.tokenizer

/-- The categories that a lexer can assign. -/
def registry : Lexer → Registry
  | .plain => Plain.registry
  | .rules => Rules.registry
  | .program grammar => grammar.registry

/-- The name under which a lexer is registered. -/
def name (lexer : Lexer) : String := lexer.registry.language

/-- The runs of the tokens of a range, from the first one to the last. -/
def runs (lexer : Lexer) (context : Context) (tokens : List Token) : List Run :=
  match lexer with
  | .plain => Plain.runs tokens
  | .rules => Rules.runs context tokens
  | .program grammar => grammar.runs context tokens

/-- The runs of a whole text. -/
def runsOfText (lexer : Lexer) (text : List Char) : List Run :=
  lexer.runs {} (lexer.tokenizer.tokens text)

/-- Style a range of a buffer; a range that is empty up to the end of the text changes nothing. -/
def restyle? (lexer : Lexer) (buffer : Buffer) (start stop : Nat) : Option Buffer :=
  let stop := min stop buffer.length
  if stop ≤ start then some buffer
  else do
    let context ← Context.capture? lexer.tokenizer buffer start stop
    let range ← Text.slice? buffer.text start stop
    pure (buffer.putAll start (lexer.runs context (lexer.tokenizer.tokens range)))

end Lexer

end EditorCore
