import EditorCore.Language.Cursor
import EditorCore.Style.Context
import EditorCore.Style.Registry
import EditorCore.Text.Lowercase

/-!
# Production rules

Rule files are parenthesized lists: the name of a rule stands alone on the line
of its opening parenthesis, words open sections and name actions, and a question
mark begins a variable. Words are matched without regard to the case of their
letters.
-/

namespace EditorCore.Rules

/-- The words that open a section of a rule. -/
def sections : List String := ["if", "then"]

/-- The words that compare. -/
def comparisons : List String :=
  ["not", "equal", "greater", "least", "different", "less-than", "less_than", "greater-than",
    "greater_than", "equal-to", "equal_to"]

/-- The words that direct how a rule is bound. -/
def directives : List String :=
  ["if-only-one", "if_only_one", "use-only-one", "use_only_one", "randomly-choose-one",
    "randomly_choose_one", "unique"]

/-- The names of the parts of the architecture. -/
def architectures : List String :=
  ["goal", "step", "tag", "visual", "auditory", "tactile", "more", "initial-memory-contents",
    "initial_memory_contents", "parameters", "named-location", "named_location", "motor",
    "ocular", "manual", "vocal"]

/-- The words for actions. -/
def actions : List String :=
  ["add", "adddb", "del", "delete", "log", "define", "set-mode", "set_mode", "send-to-motor",
    "send_to_motor", "delay-countdown", "delay_countdown", "increment", "send-to-temporal",
    "send_to_temporal"]

/-- The category of a word in small letters, if a table has it. -/
def classify? (word : String) : Option Category :=
  if word ∈ sections then some .ruleSection
  else if word ∈ comparisons then some .comparison
  else if word ∈ directives then some .directive
  else if word ∈ architectures then some .architecture
  else if word ∈ actions then some .keyword
  else none

/-- The tokenizer of rule files. -/
def tokenizer : Tokenizer := ⟨[.slashes, .semicolon]⟩

/-- The categories of rule files. -/
def registry : Registry :=
  ⟨"PPS_Rule_Lexer",
    [(.plain, false), (.ruleSection, true), (.comparison, true), (.directive, true),
      (.architecture, true), (.comment, false), (.number, false), (.ruleName, true),
      (.variable, false), (.keyword, true), (.parenthesis, false)]⟩

/--
The style of a word that is in no table. A name of more than two characters right
behind a parenthesis and at the end of its line is that of a rule. A question mark
behind a blank, a parenthesis or a question mark begins a variable, and the word
behind a question mark is its name.
-/
def styleByPlace (word : Token) (previous : Option Token) (endsLine : Bool) : Category :=
  if previous = some ['('] ∧ 2 < word.length ∧ endsLine then .ruleName
  else if word = ['?'] ∧ previous ∈ [some ['?'], some [' '], some ['(']] then .variable
  else if previous = some ['?'] ∧ '?' ∉ word then .variable
  else .plain

/-- The style of a word in small letters, by the tokens on its two sides. -/
def styleOfWord (word : Token) (previous : Option Token) (endsLine : Bool) : Category :=
  match classify? (String.ofList word) with
  | some category => category
  | none =>
    if Token.isNumber word then .number
    else if word = ['('] ∨ word = [')'] then .parenthesis
    else if tokenizer.opensComment word then .comment
    else styleByPlace word previous endsLine

/-- The style of a token outside comments, by the tokens on its two sides. -/
def styleOf (token : Token) (previous : Option Token) (endsLine : Bool) : Category :=
  styleOfWord (Text.lowercase token) previous endsLine

/-- Whether the text behind the token that was handed out last begins with a line break. -/
def endsLine (context : Context) (following : List Token) : Bool :=
  match following with
  | [] => context.nextBreaksLine
  | next :: _ => next.startsWithLineBreak

/-- The runs of the tokens that are still to come, given whether a comment is open. -/
def runsFrom (context : Context) (inComment : Bool) (cursor : Cursor) : List Run :=
  match h : cursor.next? with
  | none => []
  | some (token, further) =>
    have := Cursor.length_rest_of_next? h
    if inComment then
      token.run .comment :: runsFrom context (!token.hasLineBreak) further
    else
      let category := styleOf token further.previous? (endsLine context further.rest)
      token.run category :: runsFrom context (category = .comment) further
termination_by cursor.rest.length

/-- The runs of the tokens of a range. -/
def runs (context : Context) (tokens : List Token) : List Run :=
  runsFrom context context.inComment (.ofTokens tokens context.previous)

end EditorCore.Rules
