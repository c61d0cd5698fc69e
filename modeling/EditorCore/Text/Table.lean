/-!
# Character tables

How the tables of the character database are kept and consulted: a partition of
the code points by where its parts begin, a set as a list of intervals, and a map
as a list of rows that each move a stretch of characters by one distance. Long
tables are written as text, words between blanks, with numbers in hexadecimal.
-/

namespace EditorCore.Text.Table

variable {α : Type}

/-! ## Looking up -/

/-- Search between two indexes for the last entry at or below a key. -/
def searchLast (entries : Array (Nat × α)) (key low high : Nat) : Option α :=
  if _h : low < high then
    let middle := (low + high) / 2
    match entries[middle]? with
    | none => none
    | some (start, value) =>
      if start ≤ key then (searchLast entries key (middle + 1) high).or (some value)
      else searchLast entries key low middle
  else none
termination_by high - low

/-- The value of the last entry at or below a key, in entries of increasing key. -/
def lastAtMost? (entries : Array (Nat × α)) (key : Nat) : Option α :=
  searchLast entries key 0 entries.size

/-! ## Moving characters -/

/-- A stretch of characters, every `step`-th one of which moves by the same distance. -/
structure Shift where
  /-- The first character that moves. -/
  first : Nat
  /-- The last character that moves. -/
  last : Nat
  /-- The distance between two characters that move. -/
  step : Nat
  /-- How far they move. -/
  distance : Int

namespace Shift

/-- Whether a row moves a character. -/
def moves (row : Shift) (n : Nat) : Bool :=
  row.first ≤ n && n ≤ row.last && (n - row.first) % row.step == 0

/-- Where a row moves a character to. -/
def target (row : Shift) (n : Nat) : Nat := ((n : Int) + row.distance).toNat

/-- The characters that a row moves, and where each of them goes. -/
def pairs (row : Shift) : List (Nat × Nat) :=
  (List.range ((row.last - row.first) / row.step + 1)).map fun index =>
    let n := row.first + row.step * index
    (n, row.target n)

end Shift

/-- The character that a table of rows maps to; a character in no row stays. -/
def shift (rows : List Shift) (c : Char) : Char :=
  match rows.find? (·.moves c.toNat) with
  | some row => Char.ofNat (row.target c.toNat)
  | none => c

/-- The characters that a table of rows moves to the given one. -/
def origins (rows : List Shift) (n : Nat) : List Nat :=
  rows.filterMap fun row =>
    let origin := ((n : Int) - row.distance).toNat
    if row.moves origin && row.target origin == n then some origin else none

/-! ## Reading tables -/

/-- The value of a hexadecimal digit written with small letters. -/
def hexValue? (c : Char) : Option Nat :=
  if '0' ≤ c ∧ c ≤ '9' then some (c.toNat - '0'.toNat)
  else if 'a' ≤ c ∧ c ≤ 'f' then some (c.toNat - 'a'.toNat + 10)
  else none

/-- The words of a table, given the letters of the first one that are read, last one first. -/
def wordsFrom (begun : List Char) : List Char → List (List Char)
  | [] => if begun.isEmpty then [] else [begun.reverse]
  | c :: cs =>
    if c = ' ' ∨ c = '\n' then
      if begun.isEmpty then wordsFrom [] cs else begun.reverse :: wordsFrom [] cs
    else wordsFrom (c :: begun) cs

/-- The words of a table. -/
def words (table : String) : List (List Char) := wordsFrom [] table.toList

/-- The number at the front of a word, after the digits read, and what follows it. -/
def readNumber (read : Nat) : List Char → Nat × List Char
  | [] => (read, [])
  | c :: cs =>
    match hexValue? c with
    | some digit => readNumber (16 * read + digit) cs
    | none => (read, c :: cs)

/-- The interval that a word denotes: a number, or two of them with a hyphen between. -/
def readInterval (word : List Char) : Nat × Nat :=
  match readNumber 0 word with
  | (first, _ :: rest) => (first, (readNumber 0 rest).1)
  | (first, []) => (first, first)

/-- The intervals of a table; both of its ends belong to an interval. -/
def intervals (table : String) : List (Nat × Nat) := (words table).map readInterval

/-- The runs of a table: where each of them begins, and the label behind that number. -/
def runs (table : String) : List (Nat × String) :=
  (words table).map fun word =>
    let (start, label) := readNumber 0 word
    (start, String.ofList label)

end EditorCore.Text.Table
