/-!
# Languages

The languages that text can be highlighted as.
-/

namespace EditorCore

/-- A language that text can be highlighted as. -/
inductive Language where
  /-- Text of no particular language. -/
  | text
  /-- Python programs. -/
  | python
  /-- Programs in C and C++. -/
  | c
  /-- Production rules. -/
  | rules
deriving DecidableEq, Repr

/-- The name shown for a language. -/
def Language.name : Language → String
  | .text => "Text"
  | .python => "Python"
  | .c => "C"
  | .rules => "Production Rules"

end EditorCore
