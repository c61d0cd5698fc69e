import EditorCore.Pattern.Basic
import EditorCore.Pattern.Encoded
import EditorCore.Text.Bytes

/-!
# The size of patterns

A pattern is refused when a machine that reads it byte by byte would be too large. The
machine is measured twice, once reading forward and once backward, in bytes: every state
takes as much as any other, and states that lead on in several ways take more for each
way. Repetitions with bounds are measured written out, so the size is a product of
bounds; nothing of that size is built to find out.
-/

namespace EditorCore.Pattern

/-- The direction in which a machine reads. -/
inductive Direction where
  /-- From the first byte to the last one. -/
  | forward
  /-- From the last byte to the first one. -/
  | backward
deriving DecidableEq, Repr

/-- The size of a state. -/
def stateSize : Nat := 32

/-- What a state takes for each range of bytes that leads on. -/
def rangeSize : Nat := 8

/-- What a state takes for each state that it leads on to without reading. -/
def branchSize : Nat := 4

/-! ## Sets -/

/-- The size of one character of a set. -/
def setSize (direction : Direction) (s : CharSet) : Nat :=
  if s.isAscii then 2 * stateSize + rangeSize * s.ranges.size
  else
    match direction with
    | .forward =>
      (Encoded.junctions s).foldl (fun size junction =>
        size + (stateSize + rangeSize * junction.length)) stateSize
    | .backward =>
      let sequences := Encoded.sequences s
      2 * stateSize + stateSize * Encoded.frontCount 4 sequences + branchSize * sequences.length

/-! ## Alternatives that are literals -/

/--
Words by their first letters. The letters that lead on come in groups: a new one begins
where a word ends, because what comes later is less preferred than that word.
-/
inductive WordTree where
  /-- The groups that are closed, last one first, and the group that is open. -/
  | node (closed : List (List (Nat × WordTree))) (letters : List (Nat × WordTree))

namespace WordTree

/-- No word. -/
def empty : WordTree := .node [] []

/-- Whether no letter leads on. -/
def isLeaf : WordTree → Bool
  | .node closed letters => closed.all (·.isEmpty) && letters.isEmpty

/-- End a word here. -/
def close : WordTree → WordTree
  | .node closed letters =>
    if closed.all (·.isEmpty) && letters.isEmpty && !closed.isEmpty then .node closed letters
    else .node (letters :: closed) []

/-- A tree with one more word. -/
def insert (tree : WordTree) : List Nat → WordTree
  | [] => tree.close
  | letter :: word =>
    match tree with
    | .node closed letters =>
      let next := ((letters.lookup letter).getD empty).insert word
      .node closed ((letter, next) :: letters.filter (·.1 != letter))

mutual

/-- The size of the states for a tree. -/
def size : WordTree → Nat
  | .node closed letters =>
    stateSize + branchSize * closed.length + groupsSize closed + groupSize letters.length letters

/-- The size of the states for closed groups. -/
def groupsSize : List (List (Nat × WordTree)) → Nat
  | [] => 0
  | group :: rest => groupSize group.length group + groupsSize rest

/-- The size of the state for a group of so many letters, with what its letters lead to. -/
def groupSize (count : Nat) : List (Nat × WordTree) → Nat
  | [] =>
    if count = 0 then 0
    else branchSize + stateSize + (if count = 1 then 0 else rangeSize * count)
  | (_, tree) :: rest => (if tree.isLeaf then 0 else tree.size) + groupSize count rest

end

end WordTree

/-- The texts of patterns that are literals. -/
def literals? : List Pattern → Option (List (List Char))
  | [] => some []
  | .literal text :: rest => (literals? rest).map (text :: ·)
  | _ => none

/-- The bytes of a text. -/
def bytesOf (text : List Char) : List Nat := text.flatMap fun c => Encoded.bytes c.toNat

/-- The size of alternatives that are literals. -/
def literalsSize (direction : Direction) (texts : List (List Char)) : Nat :=
  let words := texts.map fun text =>
    match direction with
    | .forward => bytesOf text
    | .backward => (bytesOf text).reverse
  stateSize + (words.foldl .insert WordTree.empty).size

/-! ## Patterns -/

/-- The size of a repetition of something of a size. -/
def timesSize (body : Nat) (takesText : Bool) (least : Nat) (most : Option Nat) : Nat :=
  let loop := stateSize + 2 * branchSize
  match most, least with
  | none, 0 => if takesText then body + loop else body + 2 * loop + stateSize
  | none, least => least * body + loop
  | some most, least =>
    if most = least then least * body
    else if most = 1 then body + loop + stateSize
    else
      let front := if least = 0 then stateSize else least * body
      front + stateSize + (most - least) * (body + loop)

mutual

/-- The size of the states for a pattern. -/
def size (direction : Direction) : Pattern → Nat
  | .empty => stateSize
  | .literal text => stateSize * Text.byteLength text
  | .set chars _ => setSize direction chars
  | .edge _ => stateSize
  | .times body least most _ => timesSize (body.size direction) body.takesText least most
  | .capture body =>
    (if direction = .forward then 2 * stateSize else 0) + body.size direction
  | .concat parts => sizes direction parts
  | .alternation branches =>
    match literals? branches with
    | some texts => literalsSize direction texts
    | none => 2 * stateSize + branchSize * branches.length + sizes direction branches

/-- The size of the states for some patterns. -/
def sizes (direction : Direction) : List Pattern → Nat
  | [] => 0
  | part :: rest => part.size direction + sizes direction rest

end

/-- The end of the text from which a machine reads. -/
def Direction.origin : Direction → Edge
  | .forward => .textStart
  | .backward => .textEnd

mutual

/-- Whether what a machine reads first demands that it begins at the end of the text. -/
def isBound (direction : Direction) : Pattern → Bool
  | .empty => false
  | .literal _ => false
  | .set _ _ => false
  | .edge condition => condition == direction.origin
  | .times body least _ _ => 0 < least && body.isBound direction
  | .capture body => body.isBound direction
  | .concat parts => startsBound direction parts
  | .alternation branches => areBound direction branches

/-- Whether the parts that are read first, up to one that can match some text, demand it. -/
def startsBound (direction : Direction) : List Pattern → Bool
  | [] => false
  | part :: rest =>
    match direction with
    | .forward => part.isBound direction || part.isHollow && startsBound direction rest
    | .backward => part.isBound direction && areHollow rest || startsBound direction rest

/-- Whether all of some patterns demand it. -/
def areBound (direction : Direction) : List Pattern → Bool
  | [] => true
  | branch :: rest => branch.isBound direction && areBound direction rest

end

/-- The size of the machine for a pattern: it may begin anywhere, and keeps the match. -/
def machineSize (direction : Direction) (pattern : Pattern) : Nat :=
  let beginning :=
    if pattern.isBound direction then stateSize
    else 3 * stateSize + 2 * branchSize + rangeSize
  beginning + (Pattern.capture pattern).size direction + stateSize

/-- The size of the largest machine that is allowed. -/
def sizeLimit : Nat := 10 * Nat.pow 2 20

/-- Whether a pattern is a choice of so many texts that no machine is needed. -/
def isWordList : Pattern → Bool
  | .alternation branches => (literals? branches).any (3000 ≤ ·.length)
  | _ => false

/-- Whether a pattern is not too large to be searched for. -/
def isModest (pattern : Pattern) : Bool :=
  pattern.isWordList ||
    [.forward, .backward].all fun direction => pattern.machineSize direction ≤ sizeLimit

end EditorCore.Pattern
