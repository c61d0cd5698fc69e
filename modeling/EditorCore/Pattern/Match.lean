import EditorCore.Pattern.ClassName
import EditorCore.Pattern.Machine

/-!
# Running machines

A machine runs over a text once and follows all ways at the same time. Its threads
stand in the order in which their ways are preferred, and of those that stand at the
same step only the first one is kept, so the work is bounded by the number of steps for
each character. A thread that accepts ends those behind it; those in front of it may
still find a match that is preferred.
-/

namespace EditorCore

/-- A match, between two places given by the number of characters in front of them. -/
structure Found where
  /-- Where the match begins. -/
  start : Nat
  /-- Where it ends. -/
  stop : Nat
deriving DecidableEq, Repr

/-- A place in a text, known by the characters on both sides. -/
structure Place where
  /-- The character in front; none at the start of the text. -/
  before : Option Char
  /-- The character behind; none at the end of the text. -/
  after : Option Char
deriving DecidableEq, Repr

namespace Place

/-- Whether a character belongs to a word. -/
def isWordChar (ascii : Bool) (c : Char) : Bool :=
  if ascii then LetterClass.asciiWordSet.contains c else LetterClass.wordSet.contains c

/-- Whether words lie around a place as a condition demands. -/
def meetsWord (place : Place) (ascii : Bool) (edge : WordEdge) : Bool :=
  let behindWord := place.before.any (isWordChar ascii)
  let beforeWord := place.after.any (isWordChar ascii)
  match edge with
  | .boundary => behindWord != beforeWord
  | .inside => behindWord == beforeWord
  | .start => !behindWord && beforeWord
  | .stop => behindWord && !beforeWord
  | .startHalf => !behindWord
  | .stopHalf => !beforeWord

/-- Whether a line begins at a place; a carriage return and a line feed are not parted. -/
def beginsLine (place : Place) (returns : Bool) : Bool :=
  match place.before with
  | none => true
  | some '\n' => true
  | some '\r' => returns && place.after != some '\n'
  | some _ => false

/-- Whether a line ends at a place; a carriage return and a line feed are not parted. -/
def endsLine (place : Place) (returns : Bool) : Bool :=
  match place.after with
  | none => true
  | some '\n' => !(returns && place.before == some '\r')
  | some '\r' => returns
  | some _ => false

/-- Whether a place meets a condition. -/
def meets (place : Place) : Edge → Bool
  | .textStart => place.before.isNone
  | .textEnd => place.after.isNone
  | .lineStart returns => place.beginsLine returns
  | .lineEnd returns => place.endsLine returns
  | .word edge ascii => place.meetsWord ascii edge

end Place

namespace Machine

/-- A way through a machine: the step where it stands, and where in the text it began. -/
structure Thread where
  /-- The step where the thread stands. -/
  step : Nat
  /-- The number of characters in front of its match. -/
  origin : Nat
deriving DecidableEq, Repr

/-- How many threads there are at one place: one at each step, what comes of it, and a new one. -/
def moves (machine : Machine) : Nat :=
  machine.steps.foldl (fun total step => total + 1 + step.ways) 1

/--
The threads that stand at a character to take, or accept, once those of a list have
moved on, each with its step; those found before come first, in reverse. A step carries
the mark of the last place at which a thread stood there.
-/
def settle (machine : Machine) (place : Place) (mark : Nat) :
    Nat → List Thread → Array Nat → List (Thread × Step) → List (Thread × Step) × Array Nat
  | 0, _, marks, settled => (settled, marks)
  | _, [], marks, settled => (settled, marks)
  | fuel + 1, thread :: others, marks, settled =>
    if marks[thread.step]? = some mark then
      machine.settle place mark fuel others marks settled
    else
      let marks := marks.setIfInBounds thread.step mark
      match machine.steps[thread.step]? with
      | none => machine.settle place mark fuel others marks settled
      | some (.fork ways) =>
        let further := ways.map fun way => { thread with step := way }
        machine.settle place mark fuel (further ++ others) marks settled
      | some (.check condition next) =>
        let further := if place.meets condition then [{ thread with step := next }] else []
        machine.settle place mark fuel (further ++ others) marks settled
      | some step => machine.settle place mark fuel others marks ((thread, step) :: settled)

/-- The threads in front of the first one that accepts, and that one. -/
def cut : List (Thread × Step) → List (Thread × Step) × Option Thread
  | [] => ([], none)
  | (thread, .accept) :: _ => ([], some thread)
  | entry :: rest =>
    let (front, accepted) := cut rest
    (entry :: front, accepted)

/-- The threads that go on behind a character. -/
def advance (c : Char) (threads : List (Thread × Step)) : List Thread :=
  threads.filterMap fun (thread, step) =>
    match step with
    | .take chars next => if chars.contains c then some { thread with step := next } else none
    | _ => none

/-- What is known at a place: the threads that can go on, the marks, and a match so far. -/
structure Front where
  /-- The threads that stand at a character to take, each with its step. -/
  threads : List (Thread × Step)
  /-- For each step the last place at which a thread stood there. -/
  marks : Array Nat
  /-- The match that is preferred so far. -/
  found : Option Found

/--
Threads arrive at a place behind so many characters. Until a match is found, one more
thread begins at each place, behind all others.
-/
def arrive (machine : Machine) (fuel : Nat) (place : Place) (position : Nat)
    (threads : List Thread) (marks : Array Nat) (found : Option Found) : Front :=
  let newcomers := if found.isSome then [] else [⟨machine.start, position⟩]
  let (settled, marks) := machine.settle place (position + 1) fuel (threads ++ newcomers) marks []
  let (front, accepted) := cut settled.reverse
  ⟨front, marks, (accepted.map fun thread => ⟨thread.origin, position⟩) <|> found⟩

/-- Run threads over a text that begins behind so many characters. -/
def run (machine : Machine) (fuel : Nat) (before : Option Char) (position : Nat)
    (threads : List Thread) (marks : Array Nat) (found : Option Found) :
    List Char → Option Found
  | [] => (machine.arrive fuel ⟨before, none⟩ position threads marks found).found
  | c :: rest =>
    let front := machine.arrive fuel ⟨before, some c⟩ position threads marks found
    if front.threads.isEmpty && front.found.isSome then front.found
    else
      machine.run fuel (some c) (position + 1) (advance c front.threads) front.marks
        front.found rest

/-- The preferred match at the first place of a text that has one. -/
def find? (machine : Machine) (text : List Char) : Option Found :=
  machine.run machine.moves none 0 [] (Array.replicate machine.steps.size 0) none text

end Machine

end EditorCore
