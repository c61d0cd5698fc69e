import EditorCore.Style.Color

/-!
# Themes

A theme gives colors to categories, for a light or a dark background. A set of
themes holds at most one theme for each name and background.
-/

namespace EditorCore

/-- What background a theme is made for. -/
inductive Variant where
  | light
  | dark
deriving DecidableEq, Repr

namespace Variant

/-- The variant that is dark or not. -/
def ofDark (isDark : Bool) : Variant := if isDark then .dark else .light

/-- The name of a variant in theme files. -/
def name : Variant → String
  | .light => "light"
  | .dark => "dark"

/-- The variant with a name. -/
def ofName? (name : String) : Option Variant :=
  if name = "light" then some .light else if name = "dark" then some .dark else none

end Variant

/-- Colors for categories. -/
structure Theme where
  /-- The name of the theme. -/
  name : String
  /-- The background that it is made for. -/
  variant : Variant
  /-- The color of text that has none of its own. -/
  foreground : Color
  /-- The color behind the text. -/
  background : Color
  /-- The colors of categories; the first one for a category counts. -/
  colors : List (Category × Color)
deriving DecidableEq, Repr

namespace Theme

/-- The color of a category, if the theme has one for it. -/
def color? (theme : Theme) (category : Category) : Option Color := theme.colors.lookup category

/-- The color that a category is drawn with: the theme's, its own, or that of plain text. -/
def drawnColor (theme : Theme) (category : Category) : Color :=
  let key := category.paletteKey
  match theme.color? key with
  | some color => color
  | none => if key.ownColor = .standard then theme.foreground else key.ownColor

/-- The look of a category. -/
def lookOf (theme : Theme) (category : Category) (bold : Bool) : Look :=
  ⟨theme.drawnColor category, theme.background, bold⟩

end Theme

/-- Themes by name and variant. -/
structure ThemeSet where
  /-- The themes; no two have one name and variant. -/
  themes : List Theme
deriving DecidableEq, Repr

namespace ThemeSet

/-- A set without themes. -/
def empty : ThemeSet := ⟨[]⟩

/-- Whether a theme has a name and variant. -/
def isFor (name : String) (variant : Variant) (theme : Theme) : Bool :=
  theme.name == name && theme.variant == variant

/-- The theme with a name and variant. -/
def get? (set : ThemeSet) (name : String) (variant : Variant) : Option Theme :=
  set.themes.find? (isFor name variant)

/-- A set with one more theme, which takes the place of one with its name and variant. -/
def insert (set : ThemeSet) (theme : Theme) : ThemeSet :=
  ⟨theme :: set.themes.filter fun other => !isFor theme.name theme.variant other⟩

/-- A set with all themes of another one, which take the place of their likes. -/
def merge (set other : ThemeSet) : ThemeSet := other.themes.foldl insert set

/-- A list without the entries that are equal to the one in front of them. -/
def dropRepeats : List String → List String
  | [] => []
  | [name] => [name]
  | name :: next :: rest =>
    if name = next then dropRepeats (next :: rest) else name :: dropRepeats (next :: rest)

/-- The names of the themes, each once and in order. -/
def names (set : ThemeSet) : List String :=
  dropRepeats ((set.themes.map (·.name)).mergeSort fun a b => decide (a ≤ b))

end ThemeSet

end EditorCore
