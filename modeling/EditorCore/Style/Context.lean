import EditorCore.Style.Buffer
import EditorCore.Token.Backward

/-!
# The surroundings of a range

Highlighting keeps nothing between two calls. What it must know about the text
in front of a range is read off the styles that were written there: whether a
comment or a string is still open, and which token came last. Of the text behind
the range it sees one character.
-/

namespace EditorCore

/-- What the highlighting of a range can see outside the range. -/
structure Context where
  /-- The range starts inside a line comment. -/
  inComment : Bool := false
  /-- The token that ends where the range starts. -/
  previous : Option Token := none
  /-- The last token before the range that is not blank. -/
  previousSignificant : Option Token := none
  /-- The style of that token. -/
  significantStyle : Option Category := none
  /-- The quote of the string that the range starts in. -/
  openQuote : Option Char := none
  /-- The range starts behind a backslash that escapes what follows it. -/
  escaped : Bool := false
  /-- The first character behind the range. -/
  nextChar : Option Char := none
  /-- The first character behind the range that is not blank, if it is on the same line. -/
  nextInline : Option Char := none
deriving DecidableEq, Repr

namespace Context

/-- Whether the text behind the range begins with a line break. -/
def nextBreaksLine (context : Context) : Bool := context.nextChar.any Text.isLineBreak

/--
The last token of a text that is not blank, given the last token, with the text up to
its end.
-/
def significant (t : Tokenizer) (before : List Char) : Option (List Char × Token) :=
  match t.tokenBefore? before with
  | none => none
  | some token =>
    if token.isBlank then
      let front := before.take (before.length - token.length)
      (t.tokenBefore? front).map fun earlier => (front, earlier)
    else some (before, token)

/-- Where the string bytes that end at an offset begin. -/
def stringStart (styles : List Category) (offset : Nat) : Nat :=
  offset - ((styles.take offset).reverse.takeWhile (· == .string)).length

/--
The quote of the string that a place lies in: all string bytes before it begin with the
quote.
-/
def openQuote? (buffer : Buffer) (offset : Nat) : Option (Option Char) :=
  let start := stringStart buffer.styles offset
  if start = offset then some none
  else (Text.slice? buffer.text start offset).map (·.head?)

/-- The number of backslashes at the end of a text. -/
def trailingBackslashes (before : List Char) : Nat :=
  (before.reverse.takeWhile (· == '\\')).length

/-- The surroundings of a range, if its ends and the start of an open string are places. -/
def capture? (t : Tokenizer) (buffer : Buffer) (start stop : Nat) : Option Context := do
  let (before, _) ← Text.splitAt? buffer.text start
  let (_, after) ← Text.splitAt? buffer.text stop
  let openQuote ← openQuote? buffer start
  let previous := t.tokenBefore? before
  let significant := significant t before
  pure {
    -- a comment ends with the line break, which still has the style of the comment
    inComment := 0 < start && buffer.styleAt? (start - 1) == some .comment &&
      !previous.any (·.hasLineBreak)
    previous
    previousSignificant := significant.map (·.2)
    significantStyle := significant.bind fun (upTo, token) =>
      buffer.styleAt? (Text.byteLength upTo - Text.byteLength token)
    openQuote
    escaped := openQuote.isSome && trailingBackslashes before % 2 == 1
    nextChar := after.head?
    nextInline :=
      (after.find? fun c => Text.isLineBreak c || !Text.isBlank c).filter
        (!Text.isLineBreak ·) }

end Context

end EditorCore
