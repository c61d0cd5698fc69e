/-!
# Binary floating-point numbers

The double-precision numbers as exact values, the one nearest to a quotient, and
the shortest decimal digits that single out one of them. All arithmetic is on
natural numbers.
-/

namespace EditorCore.Number

/-- A double-precision number. -/
inductive Binary64 where
  /-- A finite number: its sign, and a magnitude of `mantissa * 2 ^ exponent`. -/
  | finite (negative : Bool) (mantissa : Nat) (exponent : Int)
  /-- A number beyond all finite ones. -/
  | infinite (negative : Bool)
  /-- Not a number. -/
  | notANumber
deriving DecidableEq, Repr

namespace Binary64

/-- The number of binary digits of a mantissa. -/
def precision : Nat := 53

/-- The least exponent of a mantissa. -/
def leastExponent : Int := -1074

/-- The first magnitude that is too large, as a power of two. -/
def limitExponent : Nat := 1024

/-- A quotient rounded to the nearest natural number; a half goes to the even neighbour. -/
def roundHalfEven (numerator denominator : Nat) : Nat :=
  let whole := numerator / denominator
  let rest := numerator % denominator
  if 2 * rest < denominator then whole
  else if denominator < 2 * rest then whole + 1
  else whole + whole % 2

/-- The two sides of a fraction multiplied by a power of two, which may be negative. -/
def scaled (numerator denominator : Nat) (power : Int) : Nat × Nat :=
  if 0 ≤ power then (numerator * Nat.pow 2 power.toNat, denominator)
  else (numerator, denominator * Nat.pow 2 (-power).toNat)

/-- The exponent of the largest power of two that is not above a positive quotient. -/
def floorLog2 (numerator denominator : Nat) : Int :=
  let guess : Int := (Nat.log2 numerator : Int) - (Nat.log2 denominator : Int)
  let (n, d) := scaled numerator denominator (-guess)
  if d ≤ n then guess else guess - 1

/-- The double nearest to a quotient with a positive denominator. -/
def ofQuotient (negative : Bool) (numerator denominator : Nat) : Binary64 :=
  if numerator = 0 then .finite negative 0 leastExponent
  else
    let exponent := max (floorLog2 numerator denominator - (precision - 1 : Nat)) leastExponent
    let (n, d) := scaled numerator denominator (-exponent)
    let mantissa := roundHalfEven n d
    if 0 ≤ exponent ∧ Nat.pow 2 limitExponent ≤ mantissa * Nat.pow 2 exponent.toNat then
      .infinite negative
    else .finite negative mantissa exponent

/-- The double nearest to a decimal number, its digits being scaled by a power of ten. -/
def ofDecimal (negative : Bool) (digits : Nat) (power : Int) : Binary64 :=
  if 0 ≤ power then ofQuotient negative (digits * Nat.pow 10 power.toNat) 1
  else ofQuotient negative digits (Nat.pow 10 (-power).toNat)

/--
The magnitudes that round to a finite double, as numerators over one denominator:
the lower end, the double itself and the upper end. The gap below a power of two
is half as wide as the gap above it.
-/
def interval (mantissa : Nat) (exponent : Int) : Nat × Nat × Nat × Nat :=
  let narrow := mantissa = Nat.pow 2 (precision - 1) ∧ leastExponent < exponent
  let low := if narrow then 4 * mantissa - 1 else 4 * mantissa - 2
  let (value, denominator) := scaled (4 * mantissa) 1 (exponent - 2)
  let factor := (scaled 1 1 (exponent - 2)).1
  (low * factor, value, (4 * mantissa + 2) * factor, denominator)

/--
The number of decimal digits in front of the point of a positive quotient; it may be
negative.
-/
def magnitude (fuel : Nat) (numerator denominator : Nat) (digits : Int) : Int :=
  match fuel with
  | 0 => digits
  | fuel + 1 =>
    if denominator ≤ numerator then magnitude fuel numerator (denominator * 10) (digits + 1)
    else if numerator * 10 < denominator then
      magnitude fuel (numerator * 10) denominator (digits - 1)
    else digits

/--
The shortest decimal number that rounds to a finite double: its digits as one
number, and the power of ten that they are scaled by. Of two that are equally
short the nearer one counts.
-/
def shortest (mantissa : Nat) (exponent : Int) : Nat × Int :=
  let (low, value, high, denominator) := interval mantissa exponent
  let digitsBefore := magnitude 400 value denominator 0
  let inside := fun (n d : Nat) =>
    -- both ends belong to the interval when the mantissa is even
    if mantissa % 2 = 0 then low * d ≤ n * denominator ∧ n * denominator ≤ high * d
    else low * d < n * denominator ∧ n * denominator < high * d
  let nearest? := fun (count : Nat) =>
    let power : Int := digitsBefore - (count : Int)
    let unitUp := if 0 ≤ power then Nat.pow 10 power.toNat else 1
    let unitDown := if 0 ≤ power then 1 else Nat.pow 10 (-power).toNat
    let lower := value * unitDown / (denominator * unitUp)
    let upper := lower + 1
    let below := value * unitDown - lower * (denominator * unitUp)
    let above := upper * (denominator * unitUp) - value * unitDown
    let lowerFits := decide (inside (lower * unitUp) unitDown)
    let upperFits := decide (inside (upper * unitUp) unitDown)
    if lowerFits && (!upperFits || below < above || (below == above && lower % 2 == 0)) then
      some (lower, power)
    else if upperFits then some (upper, power)
    else none
  ((List.range 17).findSome? fun count => nearest? (count + 1)).getD (0, 0)

/-- Decimal digits with a point in its place, and at least one digit on both of its sides. -/
def positional (digits : Nat) (power : Int) : String :=
  if 0 ≤ power then toString (digits * Nat.pow 10 power.toNat) ++ ".0"
  else
    let places := (-power).toNat
    let text := (toString digits).toList
    let padded := List.replicate (places + 1 - text.length) '0' ++ text
    let whole := padded.take (padded.length - places)
    let fraction := padded.drop (padded.length - places)
    -- digits that end in zeros leave no fraction behind
    let significant := (fraction.reverse.dropWhile (· == '0')).reverse
    String.ofList whole ++ "." ++
      (if significant.isEmpty then "0" else String.ofList significant)

/-- The text of a double: its shortest digits, never with an exponent. -/
def toText : Binary64 → String
  | .notANumber => "nan"
  | .infinite negative => if negative then "-inf" else "inf"
  | .finite negative mantissa exponent =>
    let sign := if negative then "-" else ""
    if mantissa = 0 then sign ++ "0.0"
    else
      let (digits, power) := shortest mantissa exponent
      sign ++ positional digits power

end Binary64

end EditorCore.Number
