import EditorCore.Toml.Scalar
import EditorCore.Toml.Section

/-!
# Reading a theme file

Reading a file in the TOML format to a table: keys, values within values, and the
lines of the file. The reader either accepts a whole file or refuses it.
-/

namespace EditorCore.Toml

/-! ## Keys -/

/-- Read one part of a key. -/
def keyPart : Reader String := fun text =>
  match text with
  | '"' :: _ => (quotedKey text).map fun (key, rest) => (String.ofList key, rest)
  | '\'' :: _ => (quotedKey text).map fun (key, rest) => (String.ofList key, rest)
  | _ =>
    let key := text.takeWhile Value.isBareKeyChar
    if key.isEmpty then none else some (String.ofList key, text.drop key.length)

/-- How many parts a key may have. -/
def partsLimit : Nat := 79

/-- Read a key of at most so many parts, blanks around its dots and ends. -/
def dottedKey (most : Nat) : Reader (List String) := fun text =>
  match most with
  | 0 => none
  | most + 1 => do
    let (part, rest) ← keyPart (skipSpace text)
    match skipSpace rest with
    | '.' :: more => do
      let (parts, rest) ← dottedKey most more
      pure (part :: parts, rest)
    | more => pure ([part], more)

/-- Read a key at the front of a text. -/
def key : Reader (List String) := dottedKey partsLimit

/-! ## Values -/

/-- How many arrays and inline tables may stand one within the other. -/
def depthLimit : Nat := 79

/-- The rest of a line behind a comment, if one is there; a comment has no control characters. -/
def skipComment : List Char → List Char
  | '#' :: rest => rest.dropWhile isTextChar
  | text => text

/-- The text behind blanks, line breaks and comments. -/
def skipFiller (fuel : Nat) (text : List Char) : List Char :=
  match fuel with
  | 0 => text
  | fuel + 1 =>
    let behind := skipComment (skipSpace text)
    match skipNewline? behind with
    | some rest => skipFiller fuel rest
    | none => skipSpace text

/-- Skip blanks, line breaks and comments at the front of a text. -/
def skipAllFiller (text : List Char) : List Char := skipFiller (text.length + 1) text

/-- Read the items of an array behind its bracket, a comma after each but perhaps the last. -/
def items (item : Reader Value) (fuel : Nat) : Reader (List Value) := fun text =>
  match fuel with
  | 0 => none
  | fuel + 1 =>
    match skipAllFiller text with
    | ']' :: rest => some ([], rest)
    | start => do
      let (first, rest) ← item start
      match skipAllFiller rest with
      | ',' :: more => do
        let (others, rest) ← items item fuel more
        pure (first :: others, rest)
      | ']' :: rest => pure ([first], rest)
      | _ => none

/-- Read the entries of an inline table, from its first key to its closing brace. -/
def pairs (item : Reader Value) (fuel : Nat) (read : Entries) : Reader Entries := fun text =>
  match fuel with
  | 0 => none
  | fuel + 1 => do
    let (keys, rest) ← key text
    let rest ← skipFront? ['='] rest
    let (value, rest) ← item (skipSpace rest)
    let (_, read) ← Entries.assign keys value (.header, read)
    match skipSpace rest with
    | ',' :: more => pairs item fuel read more
    | '\x7d' :: rest => pure (read, rest)
    | _ => none

/-- Read an inline table behind its opening brace; it stands on one line. -/
def inlineTable (item : Reader Value) : Reader Value := fun text =>
  match skipSpace text with
  | '\x7d' :: rest => some (.table [], rest)
  | start => do
    let (entries, rest) ← pairs item (start.length + 1) [] start
    pure (.table (Entries.toTable entries), rest)

/-- Read a value, in which arrays and inline tables may stand so deep one within the other. -/
def value (depth : Nat) : Reader Value := fun text =>
  match depth, text with
  | depth + 1, '[' :: rest => do
    let (read, rest) ← items (value depth) (rest.length + 1) rest
    pure (.array read, rest)
  | depth + 1, '\x7b' :: rest => inlineTable (value depth) rest
  | _, text => scalar text

/-! ## Lines -/

/-- What has been read of a file: all its tables, and the keys of the table being filled. -/
structure Reading where
  /-- The entries of the table around everything. -/
  root : Entries
  /-- The keys of the table that values are added to. -/
  current : List String

/-- The text behind the end of a line; a comment may stand in front of it. -/
def endOfLine? (text : List Char) : Option (List Char) :=
  match skipComment (skipSpace text) with
  | [] => some []
  | rest => skipNewline? rest

/-- Read one line that is not blank: a header or a key with its value. -/
def line (reading : Reading) : Reader Reading := fun text =>
  match text with
  | '[' :: '[' :: rest => do
    let (keys, rest) ← key rest
    let rest ← skipFront? [']', ']'] rest
    let (_, root) ← Entries.openElement keys (.header, reading.root)
    pure (⟨root, keys⟩, rest)
  | '[' :: rest => do
    let (keys, rest) ← key rest
    let rest ← skipFront? [']'] rest
    let (_, root) ← Entries.openTable keys (.header, reading.root)
    pure (⟨root, keys⟩, rest)
  | _ => do
    let (keys, rest) ← key text
    let rest ← skipFront? ['='] rest
    let (value, rest) ← value depthLimit (skipSpace rest)
    let fill := Entries.assign keys value
    let (_, root) ← Entries.changeAt false fill reading.current (.header, reading.root)
    pure ({ reading with root }, rest)

/-- Read the lines of a file. -/
def lines (fuel : Nat) (reading : Reading) (text : List Char) : Option Reading :=
  match fuel with
  | 0 => none
  | fuel + 1 =>
    match skipSpace text with
    | [] => some reading
    | start =>
      if start.head? = some '#' ∨ (skipNewline? start).isSome then do
        let rest ← endOfLine? start
        lines fuel reading rest
      else do
        let (reading, rest) ← line reading start
        let rest ← endOfLine? rest
        lines fuel reading rest

/-- The character that may mark the start of a file as Unicode. -/
def byteOrderMark : Char := Char.ofNat 0xFEFF

/-- The table that a file amounts to, if it is in the format. -/
def read? (text : List Char) : Option Table := do
  let text := if text.head? = some byteOrderMark then text.tail else text
  let reading ← lines (text.length + 1) ⟨[], []⟩ text
  pure (Entries.toTable reading.root)

end EditorCore.Toml
