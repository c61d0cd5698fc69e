import EditorCore.Number.Binary64

/-!
# Values of a theme file

What a theme file in the TOML format can hold, and the text that a value is shown
as. The entries of a table come in the order of their keys.
-/

namespace EditorCore.Toml

/-- A value. -/
inductive Value where
  /-- A text. -/
  | string (text : String)
  /-- A whole number of 64 bits. -/
  | integer (number : Int)
  /-- A floating-point number. -/
  | float (number : Number.Binary64)
  /-- A truth value. -/
  | boolean (truth : Bool)
  /-- A date, a time or both, in its normal form. -/
  | dateTime (text : String)
  /-- Values in a row. -/
  | array (items : List Value)
  /-- Values by their keys. -/
  | table (entries : List (String × Value))

/-- The entries of a table, in the order of their keys. -/
abbrev Table := List (String × Value)

namespace Value

/-- The text of a value that is one. -/
def text? : Value → Option String
  | .string text => some text
  | _ => none

/-- The entries of a value that is a table. -/
def entries? : Value → Option Table
  | .table entries => some entries
  | _ => none

/-- Whether a control character cannot stand in a text without an escape. -/
def isControl (c : Char) : Bool := c.toNat ≤ 0x1F || c.toNat == 0x7F

/-- A number in hexadecimal capitals, four digits wide. -/
def hex4 (n : Nat) : List Char :=
  let digits := (Nat.toDigits 16 n).map Char.toUpper
  List.replicate (4 - digits.length) '0' ++ digits

/-- The length of the longest run of a character. -/
def longestRun (quote : Char) (longest current : Nat) : List Char → Nat
  | [] => max longest current
  | c :: cs =>
    if c = quote then longestRun quote longest (current + 1) cs
    else longestRun quote (max longest current) 0 cs

/-- The quotes that a text can stand between. -/
inductive QuoteStyle where
  /-- A double quote on each side, with escapes. -/
  | basic
  /-- A single quote on each side, without escapes. -/
  | literal
  /-- Three double quotes on each side, with escapes. -/
  | longBasic
  /-- Three single quotes on each side, without escapes. -/
  | longLiteral
deriving DecidableEq, Repr

namespace QuoteStyle

/-- The quotes on each side. -/
def quotes : QuoteStyle → List Char
  | basic => ['"']
  | literal => ['\'']
  | longBasic => ['"', '"', '"']
  | longLiteral => ['\'', '\'', '\'']

/-- Whether a text between such quotes may break lines. -/
def isLong : QuoteStyle → Bool
  | basic | literal => false
  | longBasic | longLiteral => true

/-- How many double quotes can follow each other without an escape. -/
def quotesAllowed : QuoteStyle → Nat
  | longBasic => 2
  | _ => 0

end QuoteStyle

/-- A character other than a double quote as it is written where escapes are read. -/
def escapeChar (style : QuoteStyle) (c : Char) : List Char :=
  if c = '\x08' then ['\\', 'b']
  else if c = '\t' then ['\\', 't']
  else if c = '\n' then (if style.isLong then ['\n'] else ['\\', 'n'])
  else if c = '\x0c' then ['\\', 'f']
  else if c = '\r' then ['\\', 'r']
  else if c = '\\' then ['\\', '\\']
  else if isControl c then ['\\', 'u'] ++ hex4 c.toNat
  else [c]

/--
A text as it is written where escapes are read, given how many double quotes stand
in front of it. An escape begins a new run of them.
-/
def escapeFrom (style : QuoteStyle) (run : Nat) : List Char → List Char
  | [] => []
  | c :: cs =>
    if c = '"' then
      if run < style.quotesAllowed then '"' :: escapeFrom style (run + 1) cs
      else ['\\', '"'] ++ escapeFrom style 0 cs
    else escapeChar style c ++ escapeFrom style 0 cs

/-- A text between quotes of a style; a text of several lines begins on a line of its own. -/
def quote (style : QuoteStyle) (text : List Char) : List Char :=
  let start := if style.isLong && text.contains '\n' then ['\n'] else []
  let inside :=
    match style with
    | .basic | .longBasic => escapeFrom style 0 text
    | .literal | .longLiteral => text
  style.quotes ++ start ++ inside ++ style.quotes

/-- Whether a text holds a character that only an escape can express. -/
def needsEscape (text : List Char) : Bool :=
  text.any fun c => isControl c && c != '\t' && c != '\n'

/--
The quotes that a text is shown between: those that ask for no escape, if there are
such, double ones before single ones and short ones before long ones.
-/
def quoteStyle (text : List Char) : QuoteStyle :=
  let lines := text.contains '\n'
  let slashed := text.contains '\\'
  let singles := longestRun '\'' 0 0 text
  let doubles := longestRun '"' 0 0 text
  if needsEscape text then (if lines then .longBasic else .basic)
  else if !slashed && doubles == 0 && !lines then .basic
  else if singles == 0 && !lines then .literal
  else if !slashed && doubles ≤ 2 then .longBasic
  else if singles ≤ 2 then .longLiteral
  else if lines then .longBasic
  else .basic

/-- A text as a string. -/
def renderString (text : List Char) : List Char := quote (quoteStyle text) text

/-- Whether a character can stand in a key without quotes. -/
def isBareKeyChar (c : Char) : Bool := c.isAlphanum || c == '_' || c == '-'

/-- Whether a character can stand between single quotes on one line. -/
def isLiteralChar (c : Char) : Bool := c == '\t' || (c != '\'' && !isControl c)

/-- A key of a table. -/
def renderKey (key : List Char) : List Char :=
  if !key.isEmpty && key.all isBareKeyChar then key
  else if (key.contains '"' || key.contains '\\') && key.all isLiteralChar then
    quote .literal key
  else quote .basic key

mutual

/-- The text of a value inside another one. -/
def render : Value → List Char
  | .string text => renderString text.toList
  | .integer number => (toString number).toList
  | .float number => number.toText.toList
  | .boolean truth => (if truth then "true" else "false").toList
  | .dateTime text => text.toList
  | .array items => '[' :: renderItems items ++ [']']
  | .table [] => ['\x7b', '\x7d']
  | .table entries => ['\x7b', ' '] ++ renderEntries entries ++ [' ', '\x7d']

/-- The texts of the items of an array, with commas. -/
def renderItems : List Value → List Char
  | [] => []
  | [item] => render item
  | item :: rest => render item ++ [',', ' '] ++ renderItems rest

/-- The texts of the entries of a table, with commas. -/
def renderEntries : List (String × Value) → List Char
  | [] => []
  | [(key, value)] => renderKey key.toList ++ [' ', '=', ' '] ++ render value
  | (key, value) :: rest =>
    renderKey key.toList ++ [' ', '=', ' '] ++ render value ++ [',', ' '] ++ renderEntries rest

end

/-- The key under which a date is shown that stands by itself. -/
def dateTimeKey : String := "$__toml_private_datetime"

/-- The text of a value that stands by itself. -/
def shown : Value → List Char
  | .dateTime text => render (.table [(dateTimeKey, .string text)])
  | value => render value

end Value

end EditorCore.Toml
