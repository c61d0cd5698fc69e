import EditorCore.Text.Table

/-!
# Sets of characters

A set of characters is kept as the intervals of code points that make it up, in
increasing order and with a gap between any two of them, so that equal sets are
equal. Membership is a search by halves; union, intersection, difference and
complement run over the intervals.
-/

namespace EditorCore

/-- A set of characters. -/
structure CharSet where
  /-- The intervals, in increasing order; none meets or touches the next one. -/
  ranges : Array (Nat × Nat)
deriving DecidableEq, Repr

namespace CharSet

/-- The last code point. -/
def lastCode : Nat := 0x10FFFF

/-- The code point behind one that stands for a character, surrogates passed over. -/
def following (n : Nat) : Nat := if n = 0xD7FF then 0xE000 else n + 1

/-- The code point in front of one that stands for a character, surrogates passed over. -/
def preceding (n : Nat) : Nat := if n = 0xE000 then 0xD7FF else n - 1

/-- Whether a set has a code point. -/
def hasCode (s : CharSet) (n : Nat) : Bool := (Text.Table.lastAtMost? s.ranges n).any (n ≤ ·)

/-- Whether a set has a character. -/
def contains (s : CharSet) (c : Char) : Bool := s.hasCode c.toNat

/-! ## Making sets -/

/-- Intervals in increasing order, those that meet or touch made one, behind a first one. -/
def joinFrom (last : Nat × Nat) : List (Nat × Nat) → List (Nat × Nat)
  | [] => [last]
  | next :: rest =>
    if next.1 ≤ last.2 + 1 then joinFrom (last.1, max last.2 next.2) rest
    else last :: joinFrom next rest

/-- Intervals in increasing order, those that meet or touch made one. -/
def join : List (Nat × Nat) → List (Nat × Nat)
  | [] => []
  | first :: rest => joinFrom first rest

/-- The set of the code points in some intervals. -/
def ofRanges (intervals : List (Nat × Nat)) : CharSet :=
  ⟨(join (intervals.mergeSort fun a b => a.1 ≤ b.1)).toArray⟩

/-- The set that a table lists. -/
def ofTable (table : String) : CharSet := ofRanges (Text.Table.intervals table)

/-- No character. -/
def empty : CharSet := ⟨#[]⟩

/-- All characters. -/
def full : CharSet := ⟨#[(0, lastCode)]⟩

/-- The characters from one to another. -/
def range (first last : Char) : CharSet := ⟨#[(first.toNat, last.toNat)]⟩

/-- One character. -/
def one (c : Char) : CharSet := range c c

/-- The characters of ASCII. -/
def ascii : CharSet := ⟨#[(0, 0x7F)]⟩

/-- Whether a set has no character. -/
def isEmpty (s : CharSet) : Bool := s.ranges.isEmpty

/-- Whether all characters of a set are in ASCII. -/
def isAscii (s : CharSet) : Bool := s.ranges.all fun interval => interval.2 ≤ 0x7F

/-- The character of a set that has only one. -/
def single? (s : CharSet) : Option Char :=
  match s.ranges.toList with
  | [(first, last)] => if first = last then some (Char.ofNat first) else none
  | _ => none

/-! ## Operations -/

/-- The characters of either set. -/
def union (a b : CharSet) : CharSet := ofRanges (a.ranges.toList ++ b.ranges.toList)

/-- The characters of one of the sets. -/
def unions (sets : List CharSet) : CharSet := ofRanges (sets.flatMap (·.ranges.toList))

/-- The intervals that lie in one of either list. -/
def interRanges : List (Nat × Nat) → List (Nat × Nat) → List (Nat × Nat)
  | [], _ => []
  | _, [] => []
  | a :: as, b :: bs =>
    let low := max a.1 b.1
    let high := min a.2 b.2
    let rest := if a.2 < b.2 then interRanges as (b :: bs) else interRanges (a :: as) bs
    if low ≤ high then (low, high) :: rest else rest
termination_by as bs => as.length + bs.length

/-- The characters of both sets. -/
def inter (a b : CharSet) : CharSet := ⟨(interRanges a.ranges.toList b.ranges.toList).toArray⟩

/-- The intervals between some that are in increasing order, behind one that ends somewhere. -/
def gapsFrom (last : Nat) : List (Nat × Nat) → List (Nat × Nat)
  | [] => if last < lastCode then [(following last, lastCode)] else []
  | next :: rest =>
    -- where only surrogates lie between, the ends come in the other order
    let low := following last
    let high := preceding next.1
    (min low high, max low high) :: gapsFrom next.2 rest

/-- The characters that are not in a set. -/
def complement (s : CharSet) : CharSet :=
  match s.ranges.toList with
  | [] => full
  | first :: rest =>
    let start := if 0 < first.1 then [(0, preceding first.1)] else []
    ⟨(start ++ gapsFrom first.2 rest).toArray⟩

/-- What of an interval lies outside some that are in increasing order. -/
def diffRange (first last : Nat) : List (Nat × Nat) → List (Nat × Nat)
  | [] => [(first, last)]
  | next :: rest =>
    if next.2 < first then diffRange first last rest
    else if last < next.1 then [(first, last)]
    else
      let front := if first < next.1 then [(first, preceding next.1)] else []
      front ++ if next.2 < last then diffRange (following next.2) last rest else []

/-- The characters of the first set that are not in the second. -/
def diff (a b : CharSet) : CharSet :=
  let others := b.ranges.toList
  ⟨(a.ranges.toList.flatMap fun interval => diffRange interval.1 interval.2 others).toArray⟩

/-- The characters of one of the sets but not of both. -/
def symmDiff (a b : CharSet) : CharSet := (a.union b).diff (a.inter b)

end CharSet

end EditorCore
