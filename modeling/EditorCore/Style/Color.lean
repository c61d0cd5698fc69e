import EditorCore.Style.Category

/-!
# Colors and looks

The colors of the terminal palette, colors by their red, green and blue parts,
and the look that a category has when no theme says otherwise.
-/

namespace EditorCore

/-- A color to draw with. -/
inductive Color where
  /-- Whatever the terminal draws with by itself. -/
  | standard
  | black
  | red
  | green
  | yellow
  | blue
  | magenta
  | cyan
  | white
  | brightBlack
  | brightBlue
  | brightMagenta
  /-- A color by its red, green and blue parts. -/
  | rgb (red green blue : UInt8)
deriving DecidableEq, Repr

namespace Color

/-- The value of a hexadecimal digit of either case. -/
def hexDigit? (c : Char) : Option Nat :=
  if '0' ≤ c ∧ c ≤ '9' then some (c.toNat - '0'.toNat)
  else if 'a' ≤ c ∧ c ≤ 'f' then some (c.toNat - 'a'.toNat + 10)
  else if 'A' ≤ c ∧ c ≤ 'F' then some (c.toNat - 'A'.toNat + 10)
  else none

/-- One part of a color: two hexadecimal digits, or one after a plus sign. -/
def channel? (high low : Char) : Option UInt8 := do
  if high = '+' then
    let value ← hexDigit? low
    pure value.toUInt8
  else
    let upper ← hexDigit? high
    let lower ← hexDigit? low
    pure (16 * upper + lower).toUInt8

/-- The color written as a number sign and three parts. -/
def ofHex? : List Char → Option Color
  | ['#', r₁, r₀, g₁, g₀, b₁, b₀] => do
    let red ← channel? r₁ r₀
    let green ← channel? g₁ g₀
    let blue ← channel? b₁ b₀
    pure (.rgb red green blue)
  | _ => none

/-- The color of a 24-bit number, red in its upper eight bits. -/
def ofBits (bits : Nat) : Color :=
  .rgb (bits / 0x10000 % 0x100).toUInt8 (bits / 0x100 % 0x100).toUInt8 (bits % 0x100).toUInt8

end Color

/-- How a piece of text is drawn. -/
structure Look where
  /-- The color of the text. -/
  foreground : Color
  /-- The color behind the text. -/
  background : Color
  /-- Whether the text is bold. -/
  bold : Bool
deriving DecidableEq, Repr

namespace Look

/-- The look of text that is not styled. -/
def standard : Look := ⟨.standard, .standard, false⟩

/-- Text of one color, otherwise not styled. -/
def inColor (color : Color) : Look := ⟨color, .standard, false⟩

end Look

/-- The color of a category of its own. -/
def Category.ownColor : Category → Color
  | .plain | .parenthesis => .standard
  | .ruleSection | .ruleName | .className => .yellow
  | .comparison | .string | .stringEnd => .green
  | .directive => .red
  | .architecture => .magenta
  | .comment => .brightBlack
  | .number | .constant => .cyan
  | .variable => .brightMagenta
  | .keyword => .blue
  | .builtin | .functionName => .brightBlue
  | .operator | .bracket => .white

/-- The look of a category when a theme has no color for it. -/
def Category.defaultLook (category : Category) : Look := .inColor category.ownColor

end EditorCore
