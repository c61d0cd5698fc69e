import EditorCore.Pattern.Regex
import EditorCore.Text.Blank

/-!
# Escapes in regular expressions

What a backslash can introduce: a character that would have a meaning of its own, a
character by its code point, a class of characters, or a place. Where expressions are
verbose, blanks and comments may stand between the parts of an escape.
-/

namespace EditorCore.Regex

/-! ## Blanks and comments -/

/-- The text behind a comment, which ends with its line. -/
def skipRemark (text : List Char) : List Char := (text.dropWhile (· != '\n')).tail

/-- The text behind blanks and comments; each comment takes one of the steps allowed. -/
def skipVerbose (steps : Nat) (text : List Char) : List Char :=
  match steps with
  | 0 => text
  | steps + 1 =>
    match text.dropWhile Text.isBlank with
    | '#' :: rest => skipVerbose steps (skipRemark rest)
    | rest => rest

/-- The text behind what does not count. -/
def skip (verbose : Bool) (text : List Char) : List Char :=
  if verbose then skipVerbose (text.length + 1) text else text

/-- Read characters of one kind, and what does not count behind each of them. -/
def readRun (verbose : Bool) (belongs : Char → Bool) (steps : Nat) (text : List Char) :
    List Char × List Char :=
  match steps, text with
  | steps + 1, c :: rest =>
    if belongs c then
      let (run, rest) := readRun verbose belongs steps (skip verbose rest)
      (c :: run, rest)
    else ([], c :: rest)
  | _, text => ([], text)

/-! ## Escapes -/

/-- What a backslash and the characters behind it stand for. -/
inductive Escaped where
  /-- One character, which may be given by the two digits of a byte. -/
  | char (c : Char) (asByte : Bool)
  /-- A class by a letter. -/
  | letter (negated : Bool) (kind : LetterClass)
  /-- A class by name. -/
  | named (negated : Bool) (query : ClassQuery)
  /-- A place. -/
  | anchor (anchor : Anchor)

/-- The characters with a meaning in regular expressions. -/
def metaCharacters : List Char :=
  ['\\', '.', '+', '*', '?', '(', ')', '|', '[', ']', '\x7b', '\x7d', '^', '$', '#', '&', '-', '~']

/-- Whether a backslash may make a character stand for itself. -/
def isEscapable (c : Char) : Bool :=
  metaCharacters.contains c || (c.toNat < 0x80 && !c.isAlphanum && c != '<' && c != '>')

/-- The value of a hexadecimal digit. -/
def hexValue? (c : Char) : Option Nat :=
  if '0' ≤ c ∧ c ≤ '9' then some (c.toNat - '0'.toNat)
  else if 'a' ≤ c ∧ c ≤ 'f' then some (c.toNat - 'a'.toNat + 10)
  else if 'A' ≤ c ∧ c ≤ 'F' then some (c.toNat - 'A'.toNat + 10)
  else none

/-- The character with a code point in hexadecimal, if there is one. -/
def codePoint? (digits : List Char) : Option Char := do
  if digits.isEmpty then none
  let value ← digits.foldlM (fun value c => (hexValue? c).map (16 * value + ·)) 0
  if value < 0xD800 ∨ (0xDFFF < value ∧ value ≤ 0x10FFFF) then some (Char.ofNat value) else none

/-- Read so many hexadecimal digits, and what does not count between them. -/
def readDigits? (verbose : Bool) : Nat → List Char → Option (List Char × List Char)
  | 0, text => some ([], text)
  | _ + 1, [] => none
  | count + 1, c :: rest =>
    if (hexValue? c).isSome then
      let rest := if count = 0 then rest else skip verbose rest
      (readDigits? verbose count rest).map fun (digits, rest) => (c :: digits, rest)
    else none

/-- Read a code point: so many digits, or any number of them between braces. -/
def readCodePoint? (verbose : Bool) (count : Nat) (text : List Char) :
    Option (Escaped × List Char) :=
  match skip verbose text with
  | '\x7b' :: rest => do
    let (digits, rest) :=
      readRun verbose (fun c => (hexValue? c).isSome) rest.length (skip verbose rest)
    let c ← codePoint? digits
    match rest with
    | '\x7d' :: rest => some (.char c false, rest)
    | _ => none
  | rest => do
    let (digits, rest) ← readDigits? verbose count rest
    let c ← codePoint? digits
    pure (.char c (count == 2), rest)

/-- The two parts of a text around the first place where some characters stand. -/
def splitAround? (mark : List Char) : List Char → Option (List Char × List Char)
  | [] => none
  | c :: cs =>
    if mark.isPrefixOf (c :: cs) then some ([], (c :: cs).drop mark.length)
    else (splitAround? mark cs).map fun (before, behind) => (c :: before, behind)

/-- The query that the name of a class is: a name, or a property and a value. -/
def queryOf (name : List Char) : ClassQuery :=
  match splitAround? ['!', '='] name <|> splitAround? [':'] name <|> splitAround? ['='] name with
  | some (property, value) => .byValue property value
  | none => .byName name

/-- Read the name of a class: one letter, or a name between braces. -/
def readNamed? (verbose negated : Bool) (text : List Char) : Option (Escaped × List Char) :=
  match skip verbose text with
  | '\x7b' :: rest =>
    let (name, rest) := readRun verbose (· != '\x7d') rest.length (skip verbose rest)
    match rest with
    | _ :: rest => some (.named negated (queryOf name), rest)
    | [] => none
  | c :: rest => if c = '\\' then none else some (.named negated (.byName [c]), rest)
  | [] => none

/-- Read what may follow the mark of a word boundary between braces; a repetition is left alone. -/
def readBoundary? (verbose : Bool) (text : List Char) : Option (WordEdge × List Char) :=
  match text with
  | '\x7b' :: rest =>
    let isNameChar := fun (c : Char) => c.isAlpha || c == '-'
    let inside := skip verbose rest
    if inside.isEmpty then none
    else if !inside.head?.any isNameChar then some (.boundary, text)
    else
      let (name, rest) := readRun verbose isNameChar inside.length inside
      match rest with
      | '\x7d' :: rest =>
        match String.ofList name with
        | "start" => some (.start, rest)
        | "end" => some (.stop, rest)
        | "start-half" => some (.startHalf, rest)
        | "end-half" => some (.stopHalf, rest)
        | _ => none
      | _ => none
  | _ => some (.boundary, text)

/-- Read what stands behind a backslash. -/
def readEscape? (verbose : Bool) : List Char → Option (Escaped × List Char)
  | [] => none
  | c :: rest =>
    match c with
    | 'x' => readCodePoint? verbose 2 rest
    | 'u' => readCodePoint? verbose 4 rest
    | 'U' => readCodePoint? verbose 8 rest
    | 'p' => readNamed? verbose false rest
    | 'P' => readNamed? verbose true rest
    | 'd' => some (.letter false .digit, rest)
    | 'D' => some (.letter true .digit, rest)
    | 's' => some (.letter false .space, rest)
    | 'S' => some (.letter true .space, rest)
    | 'w' => some (.letter false .word, rest)
    | 'W' => some (.letter true .word, rest)
    | 'a' => some (.char '\x07' false, rest)
    | 'f' => some (.char '\x0c' false, rest)
    | 't' => some (.char '\t' false, rest)
    | 'n' => some (.char '\n' false, rest)
    | 'r' => some (.char '\r' false, rest)
    | 'v' => some (.char '\x0b' false, rest)
    | 'A' => some (.anchor .textStart, rest)
    | 'z' => some (.anchor .textEnd, rest)
    | 'b' =>
      (readBoundary? verbose rest).map fun (edge, rest) => (.anchor (.word edge), rest)
    | 'B' => some (.anchor (.word .inside), rest)
    | '<' => some (.anchor (.word .start), rest)
    | '>' => some (.anchor (.word .stop), rest)
    | _ => if isEscapable c then some (.char c false, rest) else none

end EditorCore.Regex
