import EditorCore.Text.Blank

/-!
# Style categories

What a piece of text is, as far as its looks go. Highlighting only ever assigns
categories; colors and weights are attached to them later.
-/

namespace EditorCore

/-- What a piece of text is shown as. -/
inductive Category where
  /-- Plain text. -/
  | plain
  /-- The words that open the sections of a rule. -/
  | ruleSection
  /-- Words that compare. -/
  | comparison
  /-- Words that direct how a rule is bound. -/
  | directive
  /-- Names of the parts of the architecture. -/
  | architecture
  /-- Line comments. -/
  | comment
  /-- Integer literals. -/
  | number
  /-- Names of rules. -/
  | ruleName
  /-- Variables with their sigil. -/
  | variable
  /-- Keywords of a language and actions of a rule. -/
  | keyword
  /-- Parentheses of a rule. -/
  | parenthesis
  /-- Names of functions that come with a language. -/
  | builtin
  /-- Operator characters. -/
  | operator
  /-- Brackets of a program. -/
  | bracket
  /-- Names of constants. -/
  | constant
  /-- A name introduced as that of a class. -/
  | className
  /-- A name introduced as that of a function. -/
  | functionName
  /-- A string literal up to its closing quote. -/
  | string
  /-- The closing quote of a string literal. -/
  | stringEnd
deriving DecidableEq, Repr

namespace Category

/-- All categories, in the order in which they are listed. -/
def all : List Category :=
  [.plain, .ruleSection, .comparison, .directive, .architecture, .comment, .number, .ruleName,
    .variable, .keyword, .parenthesis, .builtin, .operator, .bracket, .constant, .className,
    .functionName, .string, .stringEnd]

theorem mem_all (category : Category) : category ∈ all := by
  cases category <;> decide

/-- The name of a category in theme files and listings. -/
def name : Category → String
  | .plain => "DEFAULT"
  | .ruleSection => "RULE_SECTION"
  | .comparison => "COMPARISON"
  | .directive => "DIRECTIVE"
  | .architecture => "ARCHITECTURE"
  | .comment => "COMMENT"
  | .number => "NUMBER"
  | .ruleName => "RULE_NAME"
  | .variable => "VARIABLE"
  | .keyword => "KEYWORD"
  | .parenthesis => "PARENS"
  | .builtin => "BUILTIN"
  | .operator => "OPERATOR"
  | .bracket => "BRACKETS"
  | .constant => "CONSTANT"
  | .className => "CLASS_NAME"
  | .functionName => "FUNCTION_NAME"
  | .string => "STRING"
  | .stringEnd => "STRING_END"

/-- The category with a name; blanks around the name and the case of its letters do not count. -/
def ofName? (text : String) : Option Category :=
  let wanted := String.ofList ((Text.trim text.toList).map Char.toUpper)
  all.find? (·.name = wanted)

/-- The category whose color a category is drawn with: a closing quote looks like its string. -/
def paletteKey : Category → Category
  | .stringEnd => .string
  | category => category

end Category

end EditorCore
