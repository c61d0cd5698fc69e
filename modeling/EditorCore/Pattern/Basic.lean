import EditorCore.Pattern.Regex
import EditorCore.Text.CaseFold

/-!
# Patterns

What a search looks for: an expression over sets of characters and conditions on
places. Of several ways to match, a pattern prefers some to others, so it is more than
the set of texts that it matches.

Patterns are built in a normal form by `ofSet`, `ofTimes`, `ofParts` and `ofBranches`:
characters that follow each other are one literal, nothing stands beside something,
and alternatives give their common front away. Giving it away changes what is preferred
where the front itself can match in several ways, so it belongs to the meaning.
-/

namespace EditorCore

/-- A condition on a place, which matches the empty text there. -/
inductive Edge where
  /-- The start of the text. -/
  | textStart
  /-- The end of the text. -/
  | textEnd
  /-- The start of a line, which a carriage return may end too. -/
  | lineStart (returns : Bool)
  /-- The end of a line, which a carriage return may end too. -/
  | lineEnd (returns : Bool)
  /-- A condition on words, which may be those of ASCII only. -/
  | word (edge : WordEdge) (ascii : Bool)
deriving DecidableEq, Repr

/-- An expression to search for. -/
inductive Pattern where
  /-- The empty text. -/
  | empty
  /-- Some characters, one at least. -/
  | literal (text : List Char)
  /-- One character of a set, which may have been asked for as a byte. -/
  | set (chars : CharSet) (asByte : Bool)
  /-- The empty text, at places that meet a condition. -/
  | edge (condition : Edge)
  /-- A pattern so many times at least, and at most if that is bounded; greedy or lazy. -/
  | times (body : Pattern) (least : Nat) (most : Option Nat) (greedy : Bool)
  /-- A pattern whose text counts as a part of the match. -/
  | capture (body : Pattern)
  /-- Patterns one behind the other, two at least. -/
  | concat (parts : List Pattern)
  /-- One pattern or another, the first one preferred, two at least. -/
  | alternation (branches : List Pattern)

namespace Pattern

/-! ## Lengths -/

mutual

/-- The length of the shortest text of a pattern; none if a part of it can match no text. -/
def shortest? : Pattern → Option Nat
  | .empty => some 0
  | .literal text => some text.length
  | .set chars _ => if chars.isEmpty then none else some 1
  | .edge _ => some 0
  | .times body least _ _ => body.shortest?.map (least * ·)
  | .capture body => body.shortest?
  | .concat parts => shortestSum? parts
  | .alternation branches => shortestMin? branches

/-- The length of the shortest text of patterns one behind the other. -/
def shortestSum? : List Pattern → Option Nat
  | [] => some 0
  | part :: rest => do
    let length ← part.shortest?
    let others ← shortestSum? rest
    pure (length + others)

/-- The length of the shortest text of some patterns. -/
def shortestMin? : List Pattern → Option Nat
  | [] => none
  | [branch] => branch.shortest?
  | branch :: rest => do
    let length ← branch.shortest?
    let others ← shortestMin? rest
    pure (min length others)

end

/-- Whether each match of a pattern takes some text. -/
def takesText (pattern : Pattern) : Bool := pattern.shortest?.any (0 < ·)

mutual

/-- Whether a pattern matches no other text than the empty one. -/
def isHollow : Pattern → Bool
  | .empty => true
  | .literal _ => false
  | .set _ _ => false
  | .edge _ => true
  | .times body _ most _ => most.isSome && body.isHollow
  | .capture body => body.isHollow
  | .concat parts => areHollow parts
  | .alternation branches => areHollow branches

/-- Whether some patterns match no other text than the empty one. -/
def areHollow : List Pattern → Bool
  | [] => true
  | part :: rest => part.isHollow && areHollow rest

end

/-! ## Equality -/

mutual

/-- Whether two patterns are the same. Every captured part is a part of its own. -/
def same : Pattern → Pattern → Bool
  | .empty, .empty => true
  | .literal a, .literal b => a == b
  | .set a x, .set b y => a == b && x == y
  | .edge a, .edge b => a == b
  | .times a least most greedy, .times b least' most' greedy' =>
    least == least' && most == most' && greedy == greedy' && same a b
  | .concat as, .concat bs => sameAll as bs
  | .alternation as, .alternation bs => sameAll as bs
  | _, _ => false

/-- Whether two lists have the same patterns. -/
def sameAll : List Pattern → List Pattern → Bool
  | [], [] => true
  | a :: as, b :: bs => same a b && sameAll as bs
  | _, _ => false

end

/-! ## Building patterns -/

/-- What matches nothing, not even the empty text. -/
def never : Pattern := .set .empty true

/-- One character of a set. -/
def ofSet (chars : CharSet) (asByte : Bool) : Pattern :=
  if chars.isEmpty then never
  else
    match chars.single? with
    | some c => .literal [c]
    | none => .set chars asByte

/--
A pattern several times. Once is enough for what matches only the empty text, and no
time at all is nothing.
-/
def ofTimes (body : Pattern) (least : Nat) (most : Option Nat) (greedy : Bool) : Pattern :=
  let (least, most) :=
    if body.isHollow then (min least 1, some (min (most.getD 1) 1)) else (least, most)
  if least = 0 ∧ most = some 0 then .empty
  else if least = 1 ∧ most = some 1 then body
  else .times body least most greedy

/-- The parts of patterns one behind the other. -/
def partsOf : List Pattern → List Pattern
  | [] => []
  | .empty :: rest => partsOf rest
  | .concat parts :: rest => parts ++ partsOf rest
  | part :: rest => part :: partsOf rest

/-- Parts with literals that follow each other made one. -/
def joinLiterals : List Pattern → List Pattern
  | [] => []
  | .literal text :: rest =>
    match joinLiterals rest with
    | .literal more :: others => .literal (text ++ more) :: others
    | others => .literal text :: others
  | part :: rest => part :: joinLiterals rest

/-- Patterns one behind the other. -/
def ofParts (parts : List Pattern) : Pattern :=
  match joinLiterals (partsOf parts) with
  | [] => .empty
  | [part] => part
  | parts => .concat parts

/-- The branches of alternatives. -/
def branchesOf : List Pattern → List Pattern
  | [] => []
  | .alternation branches :: rest => branches ++ branchesOf rest
  | branch :: rest => branch :: branchesOf rest

/-- The sets of patterns that are single characters. -/
def singles? : List Pattern → Option (List CharSet)
  | [] => some []
  | .literal [c] :: rest => (singles? rest).map (.one c :: ·)
  | _ => none

/-- The sets of patterns that are sets. -/
def sets? : List Pattern → Option (List CharSet)
  | [] => some []
  | .set chars _ :: rest => (sets? rest).map (chars :: ·)
  | _ => none

/-- Alternatives; those of single characters, or of sets, are a set. -/
def ofPlainBranches (branches : List Pattern) : Pattern :=
  match branchesOf branches with
  | [] => never
  | [branch] => branch
  | branches =>
    match singles? branches <|> sets? branches with
    | some sets => ofSet (.unions sets) false
    | none => .alternation branches

/-- The parts at the front that two lists share. -/
def sharedParts : List Pattern → List Pattern → List Pattern
  | a :: as, b :: bs => if same a b then a :: sharedParts as bs else []
  | _, _ => []

/-- The parts of a pattern that has several. -/
def parts? : Pattern → Option (List Pattern)
  | .concat parts => some parts
  | _ => none

/-- The parts at the front that all branches share, if all have several parts. -/
def commonFront (branches : List Pattern) : List Pattern :=
  match branches.mapM parts? with
  | some (first :: others) => others.foldl sharedParts first
  | _ => []

/-- Alternatives. What all of them begin with is matched before one of them is chosen. -/
def ofBranches (branches : List Pattern) : Pattern :=
  match ofPlainBranches branches with
  | .alternation branches =>
    let front := commonFront branches
    if front.isEmpty then .alternation branches
    else
      let ends := branches.map fun branch => ofParts (((parts? branch).getD []).drop front.length)
      ofParts (front ++ [ofPlainBranches ends])
  | pattern => pattern

/-- One letter, with regard to case or without. -/
def ofLetter (ignoreCase : Bool) (c : Char) : Pattern :=
  if ignoreCase then ofSet (.letter c) false else .literal [c]

/-- The pattern that matches a text as it is, with regard to case or without. -/
def ofText (ignoreCase : Bool) (text : List Char) : Pattern :=
  ofParts (text.map (ofLetter ignoreCase))

end Pattern

end EditorCore
