import EditorCore.Pattern.Basic
import EditorCore.Pattern.ClassName

/-!
# The meaning of regular expressions

The pattern that a regular expression stands for under its flags. Case is folded before
a class is negated. Where classes are limited to ASCII, whatever could match a part of
a character is refused: the dot, negated classes and bytes that are no characters.
-/

namespace EditorCore

/-- The flags that hold somewhere in a regular expression. -/
structure Flags where
  /-- Letters match without regard to case. -/
  ignoreCase : Bool := false
  /-- Lines begin and end the text. -/
  multiLine : Bool := false
  /-- The dot matches line breaks too. -/
  dotAll : Bool := false
  /-- Repetitions are lazy unless marked. -/
  swapGreed : Bool := false
  /-- A carriage return breaks lines too. -/
  returns : Bool := false
  /-- Classes and places know more letters than those of ASCII. -/
  unicode : Bool := true
deriving DecidableEq, Repr

namespace Flags

/-- Turn a flag; whether blanks count has no meaning once an expression is read. -/
def turn (flags : Flags) : Flag × Bool → Flags
  | (.ignoreCase, on) => { flags with ignoreCase := on }
  | (.multiLine, on) => { flags with multiLine := on }
  | (.dotAll, on) => { flags with dotAll := on }
  | (.swapGreed, on) => { flags with swapGreed := on }
  | (.returns, on) => { flags with returns := on }
  | (.unicode, on) => { flags with unicode := on }
  | (.verbose, _) => flags

/-- Flags after a change. -/
def change (flags : Flags) (turned : FlagChange) : Flags := turned.foldl turn flags

/-- A set with the other case of its letters, if case does not count. -/
def fold (flags : Flags) (s : CharSet) : CharSet :=
  if flags.ignoreCase then
    if flags.unicode then s.withoutCase else s.withoutAsciiCase
  else s

/-- A set or what is not in it. Without it, a set of ASCII would reach beyond characters. -/
def negate? (flags : Flags) (negated : Bool) (s : CharSet) : Option CharSet :=
  if negated then
    if flags.unicode then some s.complement else none
  else some s

/-! ## Classes -/

/-- The class of a letter. -/
def letterClass? (flags : Flags) (negated : Bool) (kind : LetterClass) : Option CharSet :=
  flags.negate? negated (if flags.unicode then kind.set else kind.asciiSet)

/-- The class of a name. -/
def namedClass? (flags : Flags) (negated : Bool) (query : ClassQuery) : Option CharSet :=
  if flags.unicode then query.set?.bind fun s => flags.negate? negated (flags.fold s) else none

mutual

/-- The characters of an item of a class. -/
def itemSet? (flags : Flags) : ClassItem → Option CharSet
  | .chars first last =>
    if flags.unicode || last.toNat < 0x80 then some (.range first last) else none
  | .ascii negated set => flags.negate? negated (flags.fold set)
  | .letter negated kind => flags.letterClass? negated kind
  | .named negated query => flags.namedClass? negated query
  | .nested negated body => do
    let set ← flags.bodySet? body
    flags.negate? negated (flags.fold set)

/-- The characters of the inside of a class. -/
def bodySet? (flags : Flags) : ClassBody → Option CharSet
  | .union items => (flags.itemSets? items).map .unions
  | .op kind left right => do
    let left ← flags.bodySet? left
    let right ← flags.bodySet? right
    pure (kind.apply (flags.fold left) (flags.fold right))

/-- The characters of each of some items. -/
def itemSets? (flags : Flags) : List ClassItem → Option (List CharSet)
  | [] => some []
  | item :: rest => do
    let set ← flags.itemSet? item
    let others ← flags.itemSets? rest
    pure (set :: others)

end

/-- The characters of a class between brackets. -/
def bracketSet? (flags : Flags) (negated : Bool) (body : ClassBody) : Option CharSet := do
  let set ← flags.bodySet? body
  flags.negate? negated (flags.fold set)

/-! ## Single characters and places -/

/-- A character by itself. -/
def char? (flags : Flags) (c : Char) (asByte : Bool) : Option Pattern :=
  if flags.unicode then some (.ofLetter flags.ignoreCase c)
  else if c.toNat < 0x80 then
    some (.ofSet (flags.fold (.one c)) true)
  else if asByte then none
  else some (.literal [c])

/-- The characters that the dot matches. -/
def dotSet (flags : Flags) : CharSet :=
  if flags.dotAll then .full
  else (CharSet.ofTable (if flags.returns then "a d" else "a")).complement

/-- The condition of a place. -/
def edge (flags : Flags) : Anchor → Edge
  | .lineStart => if flags.multiLine then .lineStart flags.returns else .textStart
  | .lineEnd => if flags.multiLine then .lineEnd flags.returns else .textEnd
  | .textStart => .textStart
  | .textEnd => .textEnd
  | .word edge => .word edge !flags.unicode

end Flags

namespace Regex

mutual

/-- The pattern of an expression under flags, and the flags behind it. -/
def pattern? (flags : Flags) : Regex → Option (Pattern × Flags)
  | .empty => some (.empty, flags)
  | .flags change => some (.empty, flags.change change)
  | .char c asByte => (flags.char? c asByte).map (·, flags)
  | .dot => if flags.unicode then some (.ofSet flags.dotSet false, flags) else none
  | .anchor place => some (.edge (flags.edge place), flags)
  | .letter negated kind =>
    (flags.letterClass? negated kind).map fun set => (.ofSet set !flags.unicode, flags)
  | .named negated query =>
    (flags.namedClass? negated query).map fun set => (.ofSet set false, flags)
  | .bracket negated body =>
    (flags.bracketSet? negated body).map fun set => (.ofSet set !flags.unicode, flags)
  | .times body least most greedy => do
    let (body, flags) ← body.pattern? flags
    pure (.ofTimes body least most (greedy != flags.swapGreed), flags)
  | .capture body => do
    let (body, _) ← body.pattern? flags
    pure (.capture body, flags)
  | .group change body => do
    let (body, _) ← body.pattern? (flags.change change)
    pure (body, flags)
  | .concat parts => do
    let (parts, flags) ← patterns? flags parts
    pure (.ofParts parts, flags)
  | .alternation branches => do
    let (branches, flags) ← patterns? flags branches
    pure (.ofBranches branches, flags)

/-- The patterns of expressions one behind the other, and the flags behind them. -/
def patterns? (flags : Flags) : List Regex → Option (List Pattern × Flags)
  | [] => some ([], flags)
  | part :: rest => do
    let (pattern, flags) ← part.pattern? flags
    let (others, flags) ← patterns? flags rest
    pure (pattern :: others, flags)

end

end Regex

end EditorCore
