import EditorCore.Pattern.Escape

/-!
# Classes between brackets

Reading a class of characters that is written between brackets: characters, ranges,
named classes, nested classes, and the operations on classes. Operations group to the
left, and a class without operations is the union of its items.
-/

namespace EditorCore.Regex

/-- The operation written at the front of a text. -/
def readClassOp? : List Char → Option (ClassOp × List Char)
  | '&' :: '&' :: rest => some (.inter, rest)
  | '-' :: '-' :: rest => some (.diff, rest)
  | '~' :: '~' :: rest => some (.symmDiff, rest)
  | _ => none

/-- The ASCII characters of a named class. -/
def asciiClass? (name : List Char) : Option CharSet :=
  match String.ofList name with
  | "alnum" => some (.ofTable "30-39 41-5a 61-7a")
  | "alpha" => some (.ofTable "41-5a 61-7a")
  | "ascii" => some .ascii
  | "blank" => some (.ofTable "9 20")
  | "cntrl" => some (.ofTable "0-1f 7f")
  | "digit" => some (.ofTable "30-39")
  | "graph" => some (.ofTable "21-7e")
  | "lower" => some (.ofTable "61-7a")
  | "print" => some (.ofTable "20-7e")
  | "punct" => some (.ofTable "21-2f 3a-40 5b-60 7b-7e")
  | "space" => some (.ofTable "9-d 20")
  | "upper" => some (.ofTable "41-5a")
  | "word" => some (.ofTable "30-39 41-5a 5f 61-7a")
  | "xdigit" => some (.ofTable "30-39 41-46 61-66")
  | _ => none

/-- Read a named class, behind its opening bracket and through its closing one. -/
def readAsciiClass? : List Char → Option (ClassItem × List Char)
  | ':' :: rest => do
    let (negated, rest) := match rest with
      | '^' :: rest => (true, rest)
      | rest => (false, rest)
    let name := rest.takeWhile (· != ':')
    let set ← asciiClass? name
    match rest.drop name.length with
    | ':' :: ']' :: rest => some (.ascii negated set, rest)
    | _ => none
  | _ => none

/-- Read one character or escape. -/
def readMember? (verbose : Bool) : List Char → Option (Escaped × List Char)
  | [] => none
  | '\\' :: rest => readEscape? verbose rest
  | c :: rest => some (.char c false, rest)

/-- The item that a member is by itself; a place is none. -/
def itemOf? : Escaped → Option ClassItem
  | .char c _ => some (.chars c c)
  | .letter negated kind => some (.letter negated kind)
  | .named negated query => some (.named negated query)
  | .anchor _ => none

/--
The character behind a hyphen that decides whether the hyphen makes a range. Where
expressions are verbose it is looked for behind blanks and behind the mark of a comment,
but not behind the comment; if there is none, the next character of any kind counts.
-/
def behindHyphen (verbose : Bool) (text : List Char) : Option Char :=
  if verbose then
    match text.dropWhile Text.isBlank with
    | '#' :: rest => (rest.dropWhile Text.isBlank).head?.or text.head?
    | c :: _ => some c
    | [] => text.head?
  else text.head?

/-- Read a member, or two characters that are the ends of a range. -/
def readItem? (verbose : Bool) (text : List Char) : Option (ClassItem × List Char) := do
  let (first, rest) ← readMember? verbose text
  match skip verbose rest with
  | [] => none
  | c :: more =>
    let next := behindHyphen verbose more
    if c != '-' || next == some ']' || next == some '-' then
      (itemOf? first).map fun item => (item, c :: more)
    else do
      let (last, rest) ← readMember? verbose (skip verbose more)
      match first, last with
      | .char a _, .char b _ => if a ≤ b then some (.chars a b, rest) else none
      | _, _ => none

/-- Read the hyphens at the start of a class, which stand for themselves. -/
def readHyphens (verbose : Bool) (text : List Char) : Nat × List Char :=
  match text with
  | '-' :: _ =>
    let (hyphens, rest) := readRun verbose (· == '-') text.length text
    (hyphens.length, rest)
  | _ => (0, text)

/-- A class while it is read: the operation that waits, and the items behind it, last one first. -/
structure ClassReading where
  /-- The class in front of the last operation, and the operation. -/
  pending : Option (ClassBody × ClassOp)
  /-- What has been read since. -/
  items : List ClassItem

namespace ClassReading

/-- The class that a reading amounts to. -/
def body (reading : ClassReading) : ClassBody :=
  let right := ClassBody.union reading.items.reverse
  match reading.pending with
  | none => right
  | some (left, kind) => .op kind left right

/-- A reading with one more item. -/
def add (reading : ClassReading) (item : ClassItem) : ClassReading :=
  { reading with items := item :: reading.items }

end ClassReading

mutual

/-- Read a class behind its opening bracket: whether it is negated, and what it holds. -/
def readClass? (verbose : Bool) : Nat → List Char → Option (Bool × ClassBody × List Char)
  | 0, _ => none
  | steps + 1, text => do
    let (negated, text) := match skip verbose text with
      | '^' :: rest => (true, skip verbose rest)
      | rest => (false, rest)
    let (hyphens, text) := readHyphens verbose text
    let start := List.replicate hyphens (ClassItem.chars '-' '-')
    -- a closing bracket that comes first stands for itself
    let (start, text) := match start, text with
      | [], ']' :: rest => ([ClassItem.chars ']' ']'], rest)
      | start, rest => (start, rest)
    let (body, rest) ← readClassBody? verbose steps ⟨none, start⟩ text
    pure (negated, body, rest)

/-- Read the items of a class through its closing bracket. -/
def readClassBody? (verbose : Bool) : Nat → ClassReading → List Char →
    Option (ClassBody × List Char)
  | 0, _, _ => none
  | steps + 1, reading, text =>
    match skip verbose text with
    | [] => none
    | ']' :: rest => some (reading.body, rest)
    | '[' :: rest =>
      match readAsciiClass? rest with
      | some (item, rest) => readClassBody? verbose steps (reading.add item) rest
      | none => do
        let (negated, body, rest) ← readClass? verbose steps rest
        readClassBody? verbose steps (reading.add (.nested negated body)) rest
    | text =>
      match readClassOp? text with
      | some (kind, rest) => readClassBody? verbose steps ⟨some (reading.body, kind), []⟩ rest
      | none => do
        let (item, rest) ← readItem? verbose text
        readClassBody? verbose steps (reading.add item) rest

end

end EditorCore.Regex
