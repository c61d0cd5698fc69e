import EditorCore.Text.CharSet

/-!
# Characters as sequences of bytes

How sets of characters look from below: a set is split into sequences of ranges of
bytes, so that the characters of a sequence are those whose bytes lie in its ranges, one
after the other. How many different tails, or fronts, the sequences of a set have is the
size of a machine that reads the set byte by byte, forward or backward.
-/

namespace EditorCore.Encoded

/-- Bytes from one to another. -/
abbrev ByteRange := Nat × Nat

/-- The bytes of the character with a code point. -/
def bytes (n : Nat) : List Nat :=
  let tail := fun (shift : Nat) => 0x80 + (n / Nat.pow 2 shift) % 0x40
  if n < 0x80 then [n]
  else if n < 0x800 then [0xC0 + n / Nat.pow 2 6, tail 0]
  else if n < 0x10000 then [0xE0 + n / Nat.pow 2 12, tail 6, tail 0]
  else [0xF0 + n / Nat.pow 2 18, tail 12, tail 6, tail 0]

/-- The last code points of each length in bytes but the greatest. -/
def lengthEnds : List Nat := [0x7F, 0x7FF, 0xFFFF]

/-- Where to cut an interval whose characters agree in length, so that bytes become ranges. -/
def blockCut? (first last : Nat) : Option Nat :=
  [Nat.pow 2 6, Nat.pow 2 12, Nat.pow 2 18].findSome? fun block =>
    if first / block = last / block then none
    else if first % block ≠ 0 then some (first / block * block + (block - 1))
    else if last % block ≠ block - 1 then some (last / block * block - 1)
    else none

/-- The code point at the end of the first part of an interval that is no single sequence. -/
def cut? (first last : Nat) : Option Nat :=
  match lengthEnds.find? fun stop => first ≤ stop && stop < last with
  | some stop => some stop
  | none => if last ≤ 0x7F then none else blockCut? first last

/-- The sequences of an interval of code points without surrogates. -/
def intervalSequences (first last : Nat) : List (List ByteRange) :=
  match cut? first last with
  | some stop =>
    if _h : first ≤ stop ∧ stop < last then
      intervalSequences first stop ++ intervalSequences (stop + 1) last
    else []
  | none => [(bytes first).zip (bytes last)]
termination_by last - first
decreasing_by all_goals omega

/-- The parts of an interval of code points on both sides of the surrogates. -/
def withoutSurrogates (interval : Nat × Nat) : List (Nat × Nat) :=
  let (first, last) := interval
  if last < 0xE000 ∨ 0xD7FF < first then [interval]
  else [(first, 0xD7FF), (0xE000, last)]

/-- The sequences of a set, in increasing order. -/
def sequences (s : CharSet) : List (List ByteRange) :=
  (s.ranges.toList.flatMap withoutSurrogates).flatMap fun interval =>
    intervalSequences interval.1 interval.2

/-! ## Forward -/

/-- A place where a byte is read: the ranges that lead on, each to a place by its number. -/
abbrev Junction := List (ByteRange × Nat)

/-- Junctions that are kept once, the number of each being its place from the end, from one. -/
abbrev Junctions := List Junction

/-- The number of a junction, which is added if it is not there. -/
def Junctions.intern (known : Junctions) (junction : Junction) : Nat × Junctions :=
  match known.findIdx? (· == junction) with
  | some index => (known.length - index, known)
  | none => (known.length + 1, junction :: known)

/-- Sequences in groups: those next to each other that begin with the same range. -/
def grouped : List (List ByteRange) → List (ByteRange × List (List ByteRange))
  | [] => []
  | [] :: rest => grouped rest
  | (range :: tail) :: rest =>
    match grouped rest with
    | (next, tails) :: others =>
      if next = range then (range, tail :: tails) :: others
      else (range, [tail]) :: (next, tails) :: others
    | [] => [(range, [tail])]

/--
The number of the junction that begins some sequences of so many bytes at most, and the
junctions then known. Where the sequences end, there is no junction but the number zero.
-/
def junctionOf : Nat → Junctions → List (List ByteRange) → Nat × Junctions
  | 0, known, _ => (0, known)
  | length + 1, known, sequences =>
    match grouped sequences with
    | [] => (0, known)
    | groups =>
      let (known, junction) := groups.foldl
        (fun (known, junction) (range, tails) =>
          let (next, known) := junctionOf length known tails
          (known, junction ++ [(range, next)]))
        (known, [])
      Junctions.intern known junction

/-- The different junctions of the sequences of a set. -/
def junctions (s : CharSet) : Junctions := (junctionOf 4 [] (sequences s)).2

/-! ## Backward -/

/-- How many different fronts some sequences of so many bytes at most have. -/
def frontCount : Nat → List (List ByteRange) → Nat
  | 0, _ => 0
  | length + 1, sequences =>
    ((grouped sequences).map fun (_, tails) => 1 + frontCount length tails).sum

end EditorCore.Encoded
