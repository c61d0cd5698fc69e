/-!
# Decimal numbers in text

Reading an unsigned machine number, and padding of what is printed in columns.
-/

namespace EditorCore.Text

/-- The value of a decimal digit. -/
def digitValue? (c : Char) : Option Nat :=
  if '0' ≤ c ∧ c ≤ '9' then some (c.toNat - '0'.toNat) else none

/-- The number that a text of decimal digits denotes, after those read already. -/
def readDigits (read : Nat) : List Char → Option Nat
  | [] => some read
  | c :: cs => do
    let digit ← digitValue? c
    readDigits (10 * read + digit) cs

/-- The first number that does not fit into 64 bits. -/
def wordLimit : Nat := Nat.pow 2 64

/--
Read a 64-bit unsigned number: decimal digits, at least one, after at most one
plus sign.
-/
def readWord? (text : List Char) : Option Nat := do
  let digits := match text with
    | '+' :: rest => rest
    | _ => text
  if digits.isEmpty then none
  else
    let value ← readDigits 0 digits
    if value < wordLimit then some value else none

/-- A text with blanks in front up to a width in characters. -/
def padLeft (width : Nat) (text : String) : String :=
  String.ofList (List.replicate (width - text.length) ' ') ++ text

/-- A text with blanks behind it up to a width in characters. -/
def padRight (width : Nat) (text : String) : String :=
  text ++ String.ofList (List.replicate (width - text.length) ' ')

end EditorCore.Text
