import EditorCore.Pattern.Bracket
import EditorCore.Text.Letter
import EditorCore.Text.Decimal

/-!
# Reading regular expressions

Reading a text as a regular expression. A text that is none is refused, without saying
why; so is one that is nested too deep.
-/

namespace EditorCore.Regex

/-- How far a text has been read, and what holds there. -/
structure Reading where
  /-- The text that is still to be read. -/
  rest : List Char
  /-- Blanks and comments do not count. -/
  verbose : Bool
  /-- The names of groups so far. -/
  names : List (List Char)

/-! ## Repetitions -/

/-- The first number that is too large for a bound of a repetition. -/
def boundLimit : Nat := Nat.pow 2 32

/-- Read a bound of a repetition, blanks around it. -/
def readBound? (verbose : Bool) (text : List Char) : Option (Nat × List Char) := do
  let text := text.dropWhile Text.isBlank
  let (digits, rest) := readRun verbose Char.isDigit text.length text
  if digits.isEmpty then none
  let value ← Text.readDigits 0 digits
  if value < boundLimit then some (value, rest.dropWhile Text.isBlank) else none

/-- Read the bounds of a repetition behind the opening brace, through the closing one. -/
def readBounds? (verbose : Bool) (text : List Char) : Option (Nat × Option Nat × List Char) := do
  let (least, rest) ← readBound? verbose (skip verbose text)
  match rest with
  | '\x7d' :: rest => some (least, some least, rest)
  | ',' :: rest =>
    match skip verbose rest with
    | '\x7d' :: rest => some (least, none, rest)
    | rest => do
      let (most, rest) ← readBound? verbose rest
      match rest with
      | '\x7d' :: rest => if least ≤ most then some (least, some most, rest) else none
      | _ => none
  | _ => none

/-- Whether a text begins with a repetition operator. -/
def beginsRepetition (text : List Char) : Bool :=
  text.head?.any ['*', '+', '?', '\x7b'].contains

/-- Read a repetition operator: its bounds, whether it is greedy, and the rest. -/
def readRepetition? (verbose : Bool) (text : List Char) :
    Option (Nat × Option Nat × Bool × List Char) := do
  let (least, most, rest) ← match text with
    | '*' :: rest => some (0, none, rest)
    | '+' :: rest => some (1, none, rest)
    | '?' :: rest => some (0, some 1, rest)
    | '\x7b' :: rest => (readBounds? verbose rest).map fun (least, most, rest) =>
      (least, most, skip verbose rest)
    | _ => none
  match rest with
  | '?' :: rest => some (least, most, false, rest)
  | _ => some (least, most, true, rest)

/-- Whether something can be repeated: neither nothing nor a change of flags. -/
def isRepeatable : Regex → Bool
  | .empty => false
  | .flags _ => false
  | _ => true

/-! ## Groups -/

/-- Read the letters of flags, those behind a minus sign turned off; no letter comes twice. -/
def readFlags? (on : Bool) (seen : List Char) : List Char → Option FlagChange
  | [] => some []
  | c :: rest =>
    if seen.contains c then none
    else if c = '-' then
      if rest.isEmpty then none else readFlags? false (c :: seen) rest
    else do
      let flag ← Flag.ofLetter? c
      let others ← readFlags? on (c :: seen) rest
      pure ((flag, on) :: others)

/-- Whether blanks and comments stop or start to be passed over by a change of flags. -/
def verboseAfter (change : FlagChange) (verbose : Bool) : Bool :=
  (change.lookup .verbose).getD verbose

/-- Whether a character can begin the name of a group. -/
def isNameStart (c : Char) : Bool := c == '_' || Text.alphabetic.contains c

/-- Whether a character can stand in the name of a group. -/
def isNameChar (c : Char) : Bool :=
  isNameStart c || (Text.generalCategory c).isNumber || c == '.' || c == '[' || c == ']'

/-- Read the name of a group through its closing bracket. -/
def readGroupName? (text : List Char) : Option (List Char × List Char) :=
  let name := text.takeWhile (· != '>')
  match text.drop name.length with
  | _ :: rest =>
    if name.head?.any isNameStart && name.tail.all isNameChar then some (name, rest) else none
  | [] => none

/-- What stands behind the opening parenthesis of a group. -/
inductive GroupStart where
  /-- Flags for the rest of the group around. -/
  | flags (change : FlagChange)
  /-- Flags for the inside of a group. -/
  | plain (change : FlagChange)
  /-- A group whose text counts, and its name if it has one. -/
  | capture (name : Option (List Char))

/-- Read the start of a group behind its opening parenthesis. -/
def readGroupStart? (verbose : Bool) (text : List Char) : Option (GroupStart × List Char) :=
  match skip verbose text with
  | '?' :: 'P' :: '<' :: rest => named rest
  | '?' :: '=' :: _ => none
  | '?' :: '!' :: _ => none
  | '?' :: '<' :: '=' :: _ => none
  | '?' :: '<' :: '!' :: _ => none
  | '?' :: '<' :: rest => named rest
  | '?' :: rest =>
    let letters := rest.takeWhile fun c => c != ':' && c != ')'
    match rest.drop letters.length with
    | ':' :: rest => (readFlags? true [] letters).map fun change => (.plain change, rest)
    | ')' :: rest =>
      if letters.isEmpty then none
      else (readFlags? true [] letters).map fun change => (.flags change, rest)
    | _ => none
  | rest => some (.capture none, rest)
where
  /-- Read a name, behind which the group is like any other. -/
  named (rest : List Char) : Option (GroupStart × List Char) :=
    (readGroupName? rest).map fun (name, rest) => (.capture (some name), rest)

/-! ## Expressions -/

/-- The expression that an escape is. -/
def ofEscaped : Escaped → Regex
  | .char c asByte => .char c asByte
  | .letter negated kind => .letter negated kind
  | .named negated query => .named negated query
  | .anchor place => .anchor place

/-- Read what is neither a group nor an operator. -/
def readAtom? (verbose : Bool) : List Char → Option (Regex × List Char)
  | [] => none
  | '\\' :: rest =>
    (readEscape? verbose rest).map fun (escaped, rest) => (ofEscaped escaped, rest)
  | '[' :: rest =>
    (readClass? verbose (2 * rest.length + 2) rest).map fun (negated, body, rest) =>
      (.bracket negated body, rest)
  | '.' :: rest => some (.dot, rest)
  | '^' :: rest => some (.anchor .lineStart, rest)
  | '$' :: rest => some (.anchor .lineEnd, rest)
  | c :: rest => some (.char c false, rest)

mutual

/-- Read alternatives up to the end of a group or of the text, given those read, last one first. -/
def readBranches? : Nat → List Regex → Reading → Option (Regex × Reading)
  | 0, _, _ => none
  | steps + 1, read, reading => do
    let (branch, reading) ← readParts? steps [] reading
    match reading.rest with
    | '|' :: rest => readBranches? steps (branch :: read) { reading with rest }
    | _ => pure (ofBranches (branch :: read).reverse, reading)

/--
Read expressions that follow each other up to the end of an alternative, given those
read so far, last one first.
-/
def readParts? : Nat → List Regex → Reading → Option (Regex × Reading)
  | 0, _, _ => none
  | steps + 1, read, reading =>
    match skip reading.verbose reading.rest with
    | [] => some (ofParts read.reverse, { reading with rest := [] })
    | '|' :: rest => some (ofParts read.reverse, { reading with rest := '|' :: rest })
    | ')' :: rest => some (ofParts read.reverse, { reading with rest := ')' :: rest })
    | '(' :: rest => do
      let (start, rest) ← readGroupStart? reading.verbose rest
      match start with
      | .flags change =>
        let verbose := verboseAfter change reading.verbose
        readParts? steps (.flags change :: read) { reading with rest, verbose }
      | .plain change =>
        let verbose := verboseAfter change reading.verbose
        let (body, ended) ← readBranches? steps [] { reading with rest, verbose }
        match ended.rest with
        | ')' :: rest =>
          readParts? steps (.group change body :: read)
            { ended with rest, verbose := reading.verbose }
        | _ => none
      | .capture name => do
        if name.any reading.names.contains then none
        let names := name.toList ++ reading.names
        let (body, ended) ← readBranches? steps [] { reading with rest, names }
        match ended.rest with
        | ')' :: rest =>
          readParts? steps (.capture body :: read) { ended with rest, verbose := reading.verbose }
        | _ => none
    | text =>
      if beginsRepetition text then
        match read with
        | [] => none
        | body :: others => do
          if !isRepeatable body then none
          let (least, most, greedy, rest) ← readRepetition? reading.verbose text
          readParts? steps (.times body least most greedy :: others) { reading with rest }
      else do
        let (atom, rest) ← readAtom? reading.verbose text
        readParts? steps (atom :: read) { reading with rest }

end

/-- How deep an expression may be nested. -/
def depthLimit : Nat := 250

/-- The regular expression that a text is. -/
def ofText? (text : List Char) : Option Regex := do
  let (regex, reading) ← readBranches? (2 * text.length + 2) [] ⟨text, false, []⟩
  if reading.rest.isEmpty ∧ regex.depth ≤ depthLimit then some regex else none

end EditorCore.Regex
