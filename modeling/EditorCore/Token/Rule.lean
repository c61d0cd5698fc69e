import EditorCore.Fault
import EditorCore.Pattern.ClassName
import EditorCore.Pattern.Reader
import EditorCore.Pattern.Size
import EditorCore.Token.Basic

/-!
# The rule of a tokenizer as a pattern

Tokens are what the pattern of the alternatives matches, one match behind the other. A
tokenizer is refused where that pattern would be: if a comment lead asks for a longer
run than a bound can be, or if the pattern is too large.
-/

namespace EditorCore

/-- The pattern of what an alternative allows. -/
def Alternative.pattern : Alternative → Pattern
  | .star => .literal ['*']
  | .lead marker => .ofTimes (.literal [marker.char]) marker.least none true
  | .blanks => .ofTimes (.ofSet LetterClass.spaceSet false) 1 none true
  | .word => .ofTimes (.ofSet LetterClass.asciiWordSet false) 1 none true
  | .other => .ofSet (LetterClass.asciiWordSet.union LetterClass.spaceSet).complement false

namespace Tokenizer

/-- The pattern of a token. A blank by itself comes last, though no blank is left for it. -/
def pattern (t : Tokenizer) : Pattern :=
  .ofBranches (t.alternatives.map (·.pattern) ++ [.ofSet LetterClass.spaceSet false])

/-- Whether a tokenizer is not refused. -/
def isModest (t : Tokenizer) : Bool :=
  t.commentLeads.all (·.least < Regex.boundLimit) && t.pattern.isModest

/-- The tokenizer of texts whose comments start with some leads. -/
def ofLeads? (leads : List CommentLead) : Except Fault Tokenizer :=
  let t : Tokenizer := ⟨leads⟩
  if t.isModest then .ok t else .error .badPattern

end Tokenizer

end EditorCore
