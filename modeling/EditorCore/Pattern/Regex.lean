import EditorCore.Text.CharSet

/-!
# Written regular expressions

A regular expression in the shape in which it is written: what stands for itself,
classes, places, groups, repetitions and alternatives. What it means depends on flags
that it may change on its way, so meaning comes later.
-/

namespace EditorCore

/-! ## Flags -/

/-- A switch that a regular expression can turn. -/
inductive Flag where
  /-- Letters match without regard to case. -/
  | ignoreCase
  /-- Lines begin and end the text. -/
  | multiLine
  /-- The dot matches line breaks too. -/
  | dotAll
  /-- Repetitions are lazy unless marked. -/
  | swapGreed
  /-- A carriage return breaks lines too. -/
  | returns
  /-- Classes and places know more letters than those of ASCII. -/
  | unicode
  /-- Blanks and comments do not count. -/
  | verbose
deriving DecidableEq, Repr

/-- The flag with a letter. -/
def Flag.ofLetter? : Char → Option Flag
  | 'i' => some .ignoreCase
  | 'm' => some .multiLine
  | 's' => some .dotAll
  | 'U' => some .swapGreed
  | 'R' => some .returns
  | 'u' => some .unicode
  | 'x' => some .verbose
  | _ => none

/-- Flags that are turned, each on or off. -/
abbrev FlagChange := List (Flag × Bool)

/-! ## Classes -/

/-- The classes that a letter behind a backslash names. -/
inductive LetterClass where
  /-- Decimal digits. -/
  | digit
  /-- Blanks. -/
  | space
  /-- The characters of words. -/
  | word
deriving DecidableEq, Repr

/-- How a class of characters is asked for by name. -/
inductive ClassQuery where
  /-- A property, a category or a script. -/
  | byName (name : List Char)
  /-- A value of a property. -/
  | byValue (property value : List Char)
deriving DecidableEq, Repr

/-- An operation on two classes. -/
inductive ClassOp where
  /-- What both have. -/
  | inter
  /-- What only the first one has. -/
  | diff
  /-- What exactly one of them has. -/
  | symmDiff
deriving DecidableEq, Repr

/-- The class that an operation makes of two. -/
def ClassOp.apply : ClassOp → CharSet → CharSet → CharSet
  | .inter => .inter
  | .diff => .diff
  | .symmDiff => .symmDiff

mutual

/-- What stands between brackets. -/
inductive ClassItem where
  /-- The characters from one to another, or only one. -/
  | chars (first last : Char)
  /-- A named class of ASCII. -/
  | ascii (negated : Bool) (set : CharSet)
  /-- A class by a letter. -/
  | letter (negated : Bool) (kind : LetterClass)
  /-- A class by name. -/
  | named (negated : Bool) (query : ClassQuery)
  /-- A class between brackets of its own. -/
  | nested (negated : Bool) (body : ClassBody)

/-- The inside of brackets. -/
inductive ClassBody where
  /-- What is in one of some items. -/
  | union (items : List ClassItem)
  /-- What an operation makes of two classes. -/
  | op (kind : ClassOp) (left right : ClassBody)

end

/-! ## Places -/

/-- A condition on the words around a place. -/
inductive WordEdge where
  /-- A word on exactly one side. -/
  | boundary
  /-- A word on both sides or on none. -/
  | inside
  /-- A word behind the place and none in front of it. -/
  | start
  /-- A word in front of the place and none behind it. -/
  | stop
  /-- No word in front of the place. -/
  | startHalf
  /-- No word behind the place. -/
  | stopHalf
deriving DecidableEq, Repr

/-- A place as it is written. -/
inductive Anchor where
  /-- The start of the text, or of a line. -/
  | lineStart
  /-- The end of the text, or of a line. -/
  | lineEnd
  /-- The start of the text. -/
  | textStart
  /-- The end of the text. -/
  | textEnd
  /-- A place with regard to words. -/
  | word (edge : WordEdge)
deriving DecidableEq, Repr

/-! ## Expressions -/

/-- A regular expression as it is written. -/
inductive Regex where
  /-- Nothing. -/
  | empty
  /-- A change of flags for what follows. -/
  | flags (change : FlagChange)
  /-- A character, which may be given by the two digits of a byte. -/
  | char (c : Char) (asByte : Bool)
  /-- Any character. -/
  | dot
  /-- A place. -/
  | anchor (anchor : Anchor)
  /-- A class by a letter. -/
  | letter (negated : Bool) (kind : LetterClass)
  /-- A class by name. -/
  | named (negated : Bool) (query : ClassQuery)
  /-- A class between brackets. -/
  | bracket (negated : Bool) (body : ClassBody)
  /-- An expression several times, between two bounds. -/
  | times (body : Regex) (least : Nat) (most : Option Nat) (greedy : Bool)
  /-- A group whose text counts as a part of the match. -/
  | capture (body : Regex)
  /-- A group under flags of its own. -/
  | group (change : FlagChange) (body : Regex)
  /-- Expressions one behind the other, two at least. -/
  | concat (parts : List Regex)
  /-- One expression or another, two at least. -/
  | alternation (branches : List Regex)

namespace Regex

/-- Expressions one behind the other. -/
def ofParts : List Regex → Regex
  | [] => .empty
  | [part] => part
  | parts => .concat parts

/-- One expression or another. -/
def ofBranches : List Regex → Regex
  | [branch] => branch
  | branches => .alternation branches

end Regex

/-! ## Depth -/

mutual

/-- How deep brackets and operations are nested in an item of a class. -/
def ClassItem.depth : ClassItem → Nat
  | .nested _ body => body.depth + 1
  | _ => 0

/-- How deep brackets and operations are nested in a class; several items count as one more. -/
def ClassBody.depth : ClassBody → Nat
  | .union [] => 0
  | .union [item] => item.depth
  | .union (item :: items) => max item.depth (ClassItem.depths items) + 1
  | .op _ left right => max left.depth right.depth + 1

/-- How deep brackets and operations are nested in some items of a class. -/
def ClassItem.depths : List ClassItem → Nat
  | [] => 0
  | item :: items => max item.depth (ClassItem.depths items)

end

mutual

/-- How deep an expression is nested. -/
def Regex.depth : Regex → Nat
  | .bracket _ body => body.depth + 1
  | .times body _ _ _ => body.depth + 1
  | .capture body => body.depth + 1
  | .group _ body => body.depth + 1
  | .concat parts => Regex.depths parts + 1
  | .alternation branches => Regex.depths branches + 1
  | _ => 0

/-- How deep some expressions are nested. -/
def Regex.depths : List Regex → Nat
  | [] => 0
  | part :: parts => max part.depth (Regex.depths parts)

end

end EditorCore
