import EditorCore.Fault
import EditorCore.File.Disk
import EditorCore.Theme.Builtin
import EditorCore.Toml.Reader

/-!
# Theme files

Reading themes from a file. A theme is a table with a light part, a dark part or
both; a part may name a foreground, a background and, in a table of their own, the
colors of styles. Everything is looked at in the order of keys, and the first
thing that is wrong is the fault of the whole file.
-/

namespace EditorCore

namespace Theme

/-- The color that a value at a place of a theme stands for. -/
def colorOf (name key : String) (value : Toml.Value) : Except Fault Color :=
  match value.text?.bind fun text => Color.ofHex? text.toList with
  | some color => .ok color
  | none => .error (.badColor (name ++ "." ++ key) (String.ofList value.shown))

/-- The color under a key of a part of a theme; the standard color if the key is missing. -/
def colorAt (name key : String) (part : Toml.Table) : Except Fault Color :=
  match part.lookup key with
  | some value => colorOf name key value
  | none => .ok .standard

/-- The colors of styles, the last one for a category in front. -/
def colorsOf (name : String) (colors : List (Category × Color)) :
    Toml.Table → Except Fault (List (Category × Color))
  | [] => .ok colors
  | (key, value) :: rest =>
    match Category.ofName? key with
    | none => .error (.theme (.unknownStyle name key))
    | some category => do
      let color ← colorOf name key value
      colorsOf name ((category, color) :: colors) rest

/-- The colors of the styles of a part of a theme; none if it has no styles. -/
def stylesAt (name : String) (part : Toml.Table) : Except Fault (List (Category × Color)) :=
  match part.lookup "styles" with
  | none => .ok []
  | some value =>
    match value.entries? with
    | none => .error (.theme (.stylesNotTable name))
    | some styles => colorsOf name [] styles

/-- The theme that a part of a table describes. -/
def ofPart (name : String) (variant : Variant) (part : Toml.Table) : Except Fault Theme := do
  let foreground ← colorAt name "foreground" part
  let background ← colorAt name "background" part
  let colors ← stylesAt name part
  pure { name, variant, foreground, background, colors }

end Theme

namespace ThemeSet

/-- The theme under a key of a theme's table. -/
def variantOf (name key : String) (value : Toml.Value) : Except Fault Theme :=
  match Variant.ofName? key with
  | none => .error (.theme (.unknownVariant name key))
  | some variant =>
    match value.entries? with
    | none => .error (.theme (.variantNotTable name key))
    | some part => Theme.ofPart name variant part

/-- Add the variants of a theme to a set. -/
def addVariants (name : String) (set : ThemeSet) : Toml.Table → Except Fault ThemeSet
  | [] => .ok set
  | (key, value) :: rest => do
    let theme ← variantOf name key value
    addVariants name (set.insert theme) rest

/-- Add the themes of a table to a set. -/
def addThemes (set : ThemeSet) : Toml.Table → Except Fault ThemeSet
  | [] => .ok set
  | (name, value) :: rest =>
    match value.entries? with
    | none => .error (.theme (.notTable name))
    | some variants => do
      let set ← addVariants name set variants
      addThemes set rest

/-- The themes that a text describes, if some parser takes it to be a table. -/
def parsedBy (parse? : List Char → Option Toml.Table) (text : List Char) : Except Fault ThemeSet :=
  match parse? text with
  | none => .error .badThemeFile
  | some table => addThemes .empty table

/-- The themes that a text describes. -/
def ofText? (text : List Char) : Except Fault ThemeSet := parsedBy Toml.read? text

/-- The themes that a file on a disk describes. -/
def load? (disk : Disk) (path : Path) : Except Fault ThemeSet :=
  if !disk.hasPath path then .error (.fileNotFound path.toString)
  else
    match disk.readText? path with
    | none => .error .disk
    | some text => ofText? text

end ThemeSet

end EditorCore
