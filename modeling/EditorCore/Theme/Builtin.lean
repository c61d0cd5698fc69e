import EditorCore.Theme.Basic

/-!
# The built-in theme

The theme that is always there, in both variants.
-/

namespace EditorCore

namespace Theme

/-- The name of the built-in theme. -/
def builtinName : String := "Monokai"

/-- Categories with colors given as 24-bit numbers. -/
def palette (colors : List (Category × Nat)) : List (Category × Color) :=
  colors.map fun (category, bits) => (category, .ofBits bits)

/-- The built-in theme for a dark background. -/
def builtinDark : Theme where
  name := builtinName
  variant := .dark
  foreground := .ofBits 0xf8f8f2
  background := .ofBits 0x272822
  colors := palette
    [ (.ruleSection, 0xe7db74), (.comparison, 0xa6e22b), (.directive, 0xf9245e),
      (.architecture, 0xc678dd), (.comment, 0x736643), (.number, 0xac7db8),
      (.ruleName, 0xe7db74), (.variable, 0xff00cc), (.keyword, 0x6495ed),
      (.builtin, 0x56b6c2), (.operator, 0x56b6c2), (.bracket, 0xc678dd),
      (.constant, 0xd19a5e), (.className, 0xc68f55), (.functionName, 0x61afd1),
      (.string, 0x98c379) ]

/-- The built-in theme for a light background. -/
def builtinLight : Theme where
  name := builtinName
  variant := .light
  foreground := .ofBits 0x49483e
  background := .ofBits 0xf8f8f2
  colors := palette
    [ (.ruleSection, 0x755f00), (.comparison, 0x22863a), (.directive, 0xd70040),
      (.architecture, 0xb847e1), (.comment, 0x8b7765), (.number, 0x9842a0),
      (.ruleName, 0x755f00), (.variable, 0xcc0077), (.keyword, 0x005ab5),
      (.builtin, 0x0086b3), (.operator, 0x0086b3), (.bracket, 0x6f42c1),
      (.constant, 0xb35900), (.className, 0x8a5a00), (.functionName, 0x005cc5),
      (.string, 0x50a14f) ]

end Theme

/-- The themes that are always there. -/
def ThemeSet.builtin : ThemeSet := ⟨[Theme.builtinLight, Theme.builtinDark]⟩

end EditorCore
