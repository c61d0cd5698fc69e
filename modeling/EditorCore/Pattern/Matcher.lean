import EditorCore.Pattern.Match
import EditorCore.Pattern.Meaning
import EditorCore.Pattern.Reader
import EditorCore.Pattern.Size

/-!
# Matchers

What looks for matches in lines: plain text is compared character by character, and a
regular expression becomes a machine. Both are refused if they are too large, and a
regular expression also if it cannot be read or stands for nothing.
-/

namespace EditorCore

/-- Looks for matches. -/
inductive Matcher where
  /-- Looks for a text, with regard to case or without. -/
  | plain (ignoreCase : Bool) (text : List Char)
  /-- Looks for what a machine accepts. -/
  | regular (machine : Machine)
deriving DecidableEq, Repr

namespace Matcher

/-- The matcher of a text. -/
def ofText? (ignoreCase : Bool) (text : List Char) : Option Matcher :=
  if (Pattern.ofText ignoreCase text).isModest then some (.plain ignoreCase text) else none

/-- The matcher of a regular expression. -/
def ofRegex? (ignoreCase : Bool) (text : List Char) : Option Matcher := do
  let regex ← Regex.ofText? text
  let (pattern, _) ← regex.pattern? { ignoreCase }
  if pattern.isModest then some (.regular pattern.machine) else none

/-- Whether a character stands for another, with regard to case or without. -/
def agrees (ignoreCase : Bool) (c d : Char) : Bool :=
  c == d || ignoreCase && Text.fold c == Text.fold d

/-- Whether a text begins with another one. -/
def opens (ignoreCase : Bool) : List Char → List Char → Bool
  | [], _ => true
  | _, [] => false
  | c :: cs, d :: ds => agrees ignoreCase c d && opens ignoreCase cs ds

/-- The first match of a text in one that begins behind so many characters. -/
def findText? (ignoreCase : Bool) (wanted : List Char) (position : Nat) :
    List Char → Option Found
  | [] => if wanted.isEmpty then some ⟨position, position⟩ else none
  | c :: rest =>
    if opens ignoreCase wanted (c :: rest) then some ⟨position, position + wanted.length⟩
    else findText? ignoreCase wanted (position + 1) rest

/-- The first match in a text; of those that begin at its place the preferred one. -/
def find? : Matcher → List Char → Option Found
  | .plain ignoreCase wanted, text => findText? ignoreCase wanted 0 text
  | .regular machine, text => machine.find? text

end Matcher

end EditorCore
