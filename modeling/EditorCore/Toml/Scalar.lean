import EditorCore.Toml.Value

/-!
# Reading single values

Readers for the values of a theme file that hold no other values: strings,
numbers, truth values, dates and times. A reader takes what it can from the front
of a text and answers with the value and the rest, or refuses the text.
-/

namespace EditorCore.Toml

/-- Takes a value from the front of a text. -/
abbrev Reader (α : Type) := List Char → Option (α × List Char)

/-- A space or a tab. -/
def isSpace (c : Char) : Bool := c == ' ' || c == '\t'

/-- A text without the spaces and tabs at its front. -/
def skipSpace (text : List Char) : List Char := text.dropWhile isSpace

/-- The text behind a line break at its front. -/
def skipNewline? : List Char → Option (List Char)
  | '\n' :: rest => some rest
  | '\r' :: '\n' :: rest => some rest
  | _ => none

/-- The text behind a given front. -/
def skipFront? : List Char → List Char → Option (List Char)
  | [], text => some text
  | c :: cs, d :: text => if c = d then skipFront? cs text else none
  | _ :: _, [] => none

/-! ## Strings -/

/-- Whether a character stands for itself in a text; a tab does, other control characters do not. -/
def isTextChar (c : Char) : Bool := c == '\t' || !Value.isControl c

/-- The value of a hexadecimal digit. -/
def hexValue? (c : Char) : Option Nat :=
  if '0' ≤ c ∧ c ≤ '9' then some (c.toNat - '0'.toNat)
  else if 'a' ≤ c ∧ c ≤ 'f' then some (c.toNat - 'a'.toNat + 10)
  else if 'A' ≤ c ∧ c ≤ 'F' then some (c.toNat - 'A'.toNat + 10)
  else none

/-- The character with a code point in hexadecimal, if there is one. -/
def codePoint? (digits : List Char) : Option Char := do
  let value ← digits.foldlM (fun value c => (hexValue? c).map (16 * value + ·)) 0
  if value < 0xD800 ∨ (0xDFFF < value ∧ value ≤ 0x10FFFF) then some (Char.ofNat value) else none

/-- The character of an escape, given what stands behind the backslash. -/
def escape? : List Char → Option (Char × List Char)
  | 'b' :: rest => some ('\x08', rest)
  | 't' :: rest => some ('\t', rest)
  | 'n' :: rest => some ('\n', rest)
  | 'f' :: rest => some ('\x0c', rest)
  | 'r' :: rest => some ('\r', rest)
  | '"' :: rest => some ('"', rest)
  | '\\' :: rest => some ('\\', rest)
  | 'u' :: rest =>
    if rest.length < 4 then none
    else (codePoint? (rest.take 4)).map fun c => (c, rest.drop 4)
  | 'U' :: rest =>
    if rest.length < 8 then none
    else (codePoint? (rest.take 8)).map fun c => (c, rest.drop 8)
  | _ => none

/-- Read a string between double quotes on one line, behind its first quote. -/
def basicBody (fuel : Nat) (read : List Char) : Reader (List Char) := fun text =>
  match fuel, text with
  | 0, _ => none
  | _, [] => none
  | fuel + 1, c :: rest =>
    if c = '"' then some (read.reverse, rest)
    else if c = '\\' then do
      let (escaped, rest) ← escape? rest
      basicBody fuel (escaped :: read) rest
    else if isTextChar c then basicBody fuel (c :: read) rest
    else none

/-- The text behind blanks and line breaks. -/
def skipLines (fuel : Nat) (text : List Char) : List Char :=
  match fuel with
  | 0 => text
  | fuel + 1 =>
    match skipNewline? (skipSpace text) with
    | some rest => skipLines fuel rest
    | none => skipSpace text

/-- How often a character stands at the front of a text. -/
def countFront (c : Char) (text : List Char) : Nat := (text.takeWhile (· == c)).length

/--
Read a string between triple double quotes, behind the first three. Up to two
quotes may stand in front of the last three, and a backslash at the end of a line
swallows the blanks and line breaks behind it.
-/
def multilineBasicBody (fuel : Nat) (read : List Char) : Reader (List Char) := fun text =>
  match fuel, text with
  | 0, _ => none
  | _, [] => none
  | fuel + 1, c :: rest =>
    if c = '"' then
      let quotes := countFront '"' (c :: rest)
      if 3 ≤ quotes then
        let inside := min (quotes - 3) 2
        some (read.reverse ++ List.replicate inside '"', (c :: rest).drop (inside + 3))
      else multilineBasicBody fuel (c :: read) rest
    else if c = '\\' then
      match skipNewline? (skipSpace rest) with
      | some below => multilineBasicBody fuel read (skipLines below.length below)
      | none => do
        let (escaped, rest) ← escape? rest
        multilineBasicBody fuel (escaped :: read) rest
    else
      match skipNewline? (c :: rest) with
      | some below => multilineBasicBody fuel ('\n' :: read) below
      | none => if isTextChar c then multilineBasicBody fuel (c :: read) rest else none

/-- Read a string between triple single quotes, behind the first three. -/
def multilineLiteralBody (fuel : Nat) (read : List Char) : Reader (List Char) := fun text =>
  match fuel, text with
  | 0, _ => none
  | _, [] => none
  | fuel + 1, c :: rest =>
    if c = '\'' then
      let quotes := countFront '\'' (c :: rest)
      if 3 ≤ quotes then
        let inside := min (quotes - 3) 2
        some (read.reverse ++ List.replicate inside '\'', (c :: rest).drop (inside + 3))
      else multilineLiteralBody fuel (c :: read) rest
    else
      match skipNewline? (c :: rest) with
      | some below => multilineLiteralBody fuel ('\n' :: read) below
      | none => if isTextChar c then multilineLiteralBody fuel (c :: read) rest else none

/-- Read a string between single quotes on one line, behind its first quote. -/
def literalBody : Reader (List Char) := fun text =>
  let body := text.takeWhile Value.isLiteralChar
  match text.drop body.length with
  | '\'' :: rest => some (body, rest)
  | _ => none

/-- A line break directly behind the opening quotes does not count. -/
def dropFirstNewline (text : List Char) : List Char := (skipNewline? text).getD text

/-- Read a string on one line, of either kind of quotes. -/
def quotedKey : Reader (List Char)
  | '"' :: rest => basicBody rest.length [] rest
  | '\'' :: rest => literalBody rest
  | _ => none

/-- Read a string of any kind. -/
def stringValue : Reader (List Char)
  | '"' :: '"' :: '"' :: rest =>
    let body := dropFirstNewline rest
    multilineBasicBody body.length [] body
  | '\'' :: '\'' :: '\'' :: rest =>
    let body := dropFirstNewline rest
    multilineLiteralBody body.length [] body
  | text => quotedKey text

/-! ## Numbers -/

/-- Read digits, single underscores between them; the underscores are dropped. -/
def digits (isDigit : Char → Bool) (fuel : Nat) (read : List Char) : Reader (List Char) :=
  fun text =>
    match fuel, text with
    | 0, _ => none
    | fuel + 1, c :: rest =>
      if isDigit c then
        match rest with
        | '_' :: more => digits isDigit fuel (c :: read) more
        | more =>
          if more.head?.any isDigit then digits isDigit fuel (c :: read) more
          else some ((c :: read).reverse, more)
      else none
    | _, [] => none

/-- Read digits at the front of a text. -/
def someDigits (isDigit : Char → Bool) : Reader (List Char) := fun text =>
  digits isDigit (text.length + 1) [] text

/-- Read a sign, if there is one; whether it is a minus sign. -/
def sign : List Char → Bool × List Char
  | '-' :: rest => (true, rest)
  | '+' :: rest => (false, rest)
  | text => (false, text)

/-- Read a decimal whole number without its sign; a zero is not followed by more digits. -/
def wholeDigits : Reader (List Char)
  | '0' :: rest => some (['0'], rest)
  | text => someDigits Char.isDigit text

/-- The number that digits of a base denote. -/
def valueOf (base : Nat) (digits : List Char) : Nat :=
  digits.foldl (fun value c => base * value + (hexValue? c).getD 0) 0

/-- The whole numbers that fit into 64 bits with a sign. -/
def fitsInteger (number : Int) : Bool :=
  Int.negOfNat (Nat.pow 2 63) ≤ number && number < Int.ofNat (Nat.pow 2 63)

/-- A whole number that fits. -/
def integerOf? (number : Int) (rest : List Char) : Option (Value × List Char) :=
  if fitsInteger number then some (.integer number, rest) else none

/-- Read a whole number: decimal with a sign, or with a mark for another base and no sign. -/
def integerValue : Reader Value
  | '0' :: 'x' :: rest => do
    let (read, rest) ← someDigits (fun c => (hexValue? c).isSome) rest
    integerOf? (valueOf 16 read) rest
  | '0' :: 'o' :: rest => do
    let (read, rest) ← someDigits (fun c => '0' ≤ c && c ≤ '7') rest
    integerOf? (valueOf 8 read) rest
  | '0' :: 'b' :: rest => do
    let (read, rest) ← someDigits (fun c => c == '0' || c == '1') rest
    integerOf? (valueOf 2 read) rest
  | text => do
    let (negative, text) := sign text
    let (read, rest) ← wholeDigits text
    let value : Int := valueOf 10 read
    integerOf? (if negative then -value else value) rest

/-- Read a fraction behind its point. -/
def fractionPart : List Char → Option (List Char × List Char)
  | '.' :: rest => someDigits Char.isDigit rest
  | text => some ([], text)

/-- Read an exponent with its letter; none if the letter is missing. -/
def exponentPart (text : List Char) : Option (Option Int × List Char) :=
  match text with
  | c :: rest =>
    if c = 'e' ∨ c = 'E' then do
      let (negative, rest) := sign rest
      let (read, rest) ← someDigits Char.isDigit rest
      let value : Int := valueOf 10 read
      pure (some (if negative then -value else value), rest)
    else some (none, text)
  | [] => some (none, text)

/-- Exponents beyond this do not change the number any more. -/
def exponentLimit : Int := 100000

/-- Read a number with a fraction, an exponent or both; one that is too large is refused. -/
def decimalFloat : Reader Value := fun text => do
  let (negative, unsigned) := sign text
  let (whole, rest) ← wholeDigits unsigned
  let (fraction, rest) ← fractionPart rest
  let (exponent, rest) ← exponentPart rest
  if fraction.isEmpty ∧ exponent.isNone then none
  else
    let power := max (min (exponent.getD 0) exponentLimit) (-exponentLimit) - fraction.length
    let number := Number.Binary64.ofDecimal negative (valueOf 10 (whole ++ fraction)) power
    if number = .infinite false then none else some (.float number, rest)

/-- Read an infinity or what is not a number. -/
def specialFloat : Reader Value := fun text =>
  let (negative, unsigned) := sign text
  match unsigned with
  | 'i' :: 'n' :: 'f' :: rest => some (.float (.infinite negative), rest)
  | 'n' :: 'a' :: 'n' :: rest => some (.float .notANumber, rest)
  | _ => none

/-! ## Dates and times -/

/-- Read a number of so many digits. -/
def fixedDigits (count : Nat) : Reader (List Char) := fun text =>
  let read := text.take count
  if read.length = count ∧ read.all Char.isDigit then some (read, text.drop count) else none

/-- Read a number of two digits between two bounds. -/
def twoDigits (low high : Nat) : Reader (List Char) := fun text => do
  let (read, rest) ← fixedDigits 2 text
  if low ≤ valueOf 10 read ∧ valueOf 10 read ≤ high then some (read, rest) else none

/-- The number of days of a month. -/
def daysOf (year month : Nat) : Nat :=
  if month = 2 then
    if year % 4 = 0 ∧ (year % 100 ≠ 0 ∨ year % 400 = 0) then 29 else 28
  else if month ∈ [4, 6, 9, 11] then 30
  else 31

/-- Read a date. -/
def date : Reader (List Char) := fun text => do
  let (year, text) ← fixedDigits 4 text
  let text ← skipFront? ['-'] text
  let (month, text) ← twoDigits 1 12 text
  let text ← skipFront? ['-'] text
  let (day, text) ← twoDigits 1 31 text
  if valueOf 10 day ≤ daysOf (valueOf 10 year) (valueOf 10 month) then
    some (year ++ ['-'] ++ month ++ ['-'] ++ day, text)
  else none

/-- The digits of a fraction of a second that count, and no zeros at their end. -/
def normalFraction (digits : List Char) : List Char :=
  let significant := ((digits.take 9).reverse.dropWhile (· == '0')).reverse
  if significant.isEmpty then [] else '.' :: significant

/-- Read a time of day. -/
def time : Reader (List Char) := fun text => do
  let (hour, text) ← twoDigits 0 23 text
  let text ← skipFront? [':'] text
  let (minute, text) ← twoDigits 0 59 text
  let text ← skipFront? [':'] text
  let (second, text) ← twoDigits 0 60 text
  let clock := hour ++ [':'] ++ minute ++ [':'] ++ second
  match text with
  | '.' :: rest =>
    let fraction := rest.takeWhile Char.isDigit
    if fraction.isEmpty then none
    else some (clock ++ normalFraction fraction, rest.drop fraction.length)
  | _ => some (clock, text)

/-- Read the distance of a time from world time, if there is one. -/
def offset : Reader (List Char)
  | 'Z' :: rest => some (['Z'], rest)
  | 'z' :: rest => some (['Z'], rest)
  | c :: rest =>
    if c = '+' ∨ c = '-' then do
      let (hour, rest) ← twoDigits 0 23 rest
      let rest ← skipFront? [':'] rest
      let (minute, rest) ← twoDigits 0 59 rest
      let shown := if valueOf 10 (hour ++ minute) = 0 then '+' else c
      some (shown :: hour ++ [':'] ++ minute, rest)
    else some ([], c :: rest)
  | [] => some ([], [])

/-- Whether a character may stand between a date and a time. -/
def isTimeMark (c : Char) : Bool := c == 'T' || c == 't' || c == ' '

/--
Read a date, a time or both. Once four digits and a hyphen have been read it is a
date, and once an hour and a colon it is a time: then `some none` refuses the
text, while `none` leaves it to other readers.
-/
def dateTime (text : List Char) : Option (Option (List Char × List Char)) :=
  let beginsDate := ((fixedDigits 4 text).bind fun (_, rest) => skipFront? ['-'] rest).isSome
  let beginsTime := fun (text : List Char) =>
    ((twoDigits 0 23 text).bind fun (_, rest) => skipFront? [':'] rest).isSome
  if beginsDate then
    some do
      let (day, rest) ← date text
      match rest with
      | c :: more =>
        if isTimeMark c && beginsTime more then
          let (clock, rest) ← time more
          let (distance, rest) ← offset rest
          some (day ++ ['T'] ++ clock ++ distance, rest)
        else some (day, rest)
      | [] => some (day, rest)
  else if beginsTime text then some (time text)
  else none

/-! ## All of them -/

/-- Read a number, a date or a time. -/
def numberOrDate : Reader Value := fun text =>
  match dateTime text with
  | some read => read.map fun (text, rest) => (.dateTime (String.ofList text), rest)
  | none =>
    let (_, unsigned) := sign text
    let isDecimal :=
      match wholeDigits unsigned with
      | some (_, c :: _) => c == '.' || c == 'e' || c == 'E'
      | _ => false
    if isDecimal then decimalFloat text
    else (specialFloat text).or (integerValue text)

/-- Read a value that holds no other values. -/
def scalar : Reader Value := fun text =>
  match text with
  | [] => none
  | c :: _ =>
    if c = '"' ∨ c = '\'' then
      (stringValue text).map fun (read, rest) => (.string (String.ofList read), rest)
    else if c = 't' then (skipFront? "true".toList text).map (.boolean true, ·)
    else if c = 'f' then (skipFront? "false".toList text).map (.boolean false, ·)
    else if c = 'i' ∨ c = 'n' then specialFloat text
    else if c = '+' ∨ c = '-' ∨ c.isDigit then numberOrDate text
    else none

end EditorCore.Toml
