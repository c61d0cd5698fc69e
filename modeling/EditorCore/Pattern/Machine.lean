import EditorCore.Pattern.Basic

/-!
# Machines that look for patterns

A machine is a list of steps, each known by its number: a step takes a character, checks
a place, leads on in several ways, or accepts. A pattern is put in front of a machine,
which makes one that first matches the pattern and then goes on, so that machines are
built from their ends. The order of the ways is that in which a pattern prefers them.

Repetitions are laid out so that each of their loops passes one junction: where an
iteration may take no text, one that does is not followed by another.
-/

namespace EditorCore

/-- A step of a machine. -/
inductive Step where
  /-- Take a character of a set. -/
  | take (chars : CharSet) (next : Nat)
  /-- Go on at places that meet a condition. -/
  | check (condition : Edge) (next : Nat)
  /-- Go on in one of several ways, the first one preferred. -/
  | fork (ways : List Nat)
  /-- What was taken so far is a match. -/
  | accept
deriving DecidableEq, Repr

/-- The number of ways that lead on from a step without taking a character. -/
def Step.ways : Step → Nat
  | .take _ _ => 0
  | .check _ _ => 1
  | .fork ways => ways.length
  | .accept => 0

/-- Steps, and the number of the one to begin with. -/
structure Machine where
  /-- The steps, each known by its place. -/
  steps : Array Step
  /-- The step to begin with. -/
  start : Nat
deriving DecidableEq, Repr

namespace Machine

/-- The machine that accepts at once. -/
def done : Machine := ⟨#[.accept], 0⟩

/-- The machine that goes on as another, but begins with a step that knows where that begins. -/
def behind (step : Nat → Step) : Machine → Machine
  | ⟨steps, start⟩ =>
    let number := steps.size
    ⟨steps.push (step start), number⟩

/-- The step that goes in or around; what is greedy prefers to go in. -/
def choice (greedy : Bool) (inside around : Nat) : Step :=
  .fork (if greedy then [inside, around] else [around, inside])

/-- A machine that may go through something first, or straight on to a step. -/
def option (greedy : Bool) (body : Machine → Machine) (exit : Nat) (rest : Machine) : Machine :=
  (body rest).behind fun inside => choice greedy inside exit

/--
A machine that begins inside a loop, and the junction behind the iterations: there it
goes on to another one or leaves the loop.
-/
def loop (greedy : Bool) (body : Machine → Machine) : Machine → Machine × Nat
  | ⟨steps, exit⟩ =>
    let junction := steps.size
    let ⟨steps, inside⟩ := body ⟨steps.push .accept, junction⟩
    (⟨steps.setIfInBounds junction (choice greedy inside exit), inside⟩, junction)

/-- A machine that goes through something once or more often. -/
def oneOrMore (greedy : Bool) (body : Machine → Machine) (rest : Machine) : Machine :=
  (loop greedy body rest).1

/-- A machine that goes through something any number of times. -/
def anyNumber (greedy takesText : Bool) (body : Machine → Machine) (rest : Machine) : Machine :=
  let exit := rest.start
  let (inside, junction) := loop greedy body rest
  if takesText then ⟨inside.steps, junction⟩
  else inside.behind fun first => choice greedy first exit

/-- A machine that goes through something so many times at least, and at most. -/
def times (greedy takesText : Bool) (least : Nat) (most : Option Nat) (body : Machine → Machine)
    (rest : Machine) : Machine :=
  match most, least with
  | some most, least =>
    let exit := rest.start
    least.repeat body ((most - least).repeat (option greedy body exit) rest)
  | none, 0 => anyNumber greedy takesText body rest
  | none, least + 1 => least.repeat body (oneOrMore greedy body rest)

end Machine

namespace Pattern

mutual

/-- A machine that first matches a pattern and then goes on as another. -/
def before : Pattern → Machine → Machine
  | .empty, rest => rest
  | .literal text, rest => text.foldr (fun c => Machine.behind (.take (.one c))) rest
  | .set chars _, rest => rest.behind (.take chars)
  | .edge condition, rest => rest.behind (.check condition)
  | .times body least most greedy, rest =>
    Machine.times greedy body.takesText least most (fun further => body.before further) rest
  | .capture body, rest => body.before rest
  | .concat parts, rest => allBefore parts rest
  | .alternation branches, ⟨steps, start⟩ =>
    let (ways, steps) := eachBefore branches start steps
    Machine.behind (fun _ => .fork ways) ⟨steps, start⟩

/-- A machine that first matches patterns one behind the other and then goes on as another. -/
def allBefore : List Pattern → Machine → Machine
  | [], rest => rest
  | part :: others, rest => part.before (allBefore others rest)

/-- The starts of machines that match one of some patterns each and then go on at a step. -/
def eachBefore : List Pattern → Nat → Array Step → List Nat × Array Step
  | [], _, steps => ([], steps)
  | branch :: others, next, steps =>
    let ⟨steps, way⟩ := branch.before ⟨steps, next⟩
    let (ways, steps) := eachBefore others next steps
    (way :: ways, steps)

end

/-- The machine that looks for a pattern. -/
def machine (pattern : Pattern) : Machine := pattern.before .done

end Pattern

end EditorCore
