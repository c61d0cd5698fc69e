/-!
# Faults

Why an operation on documents, files, searches, themes or settings is refused.
A fault is a cause; its wording is in one place.
-/

namespace EditorCore

/-- Why a theme file that can be read is not accepted. -/
inductive ThemeFault where
  /-- A theme is not a table. -/
  | notTable (theme : String)
  /-- A theme has a part that is neither light nor dark. -/
  | unknownVariant (theme variant : String)
  /-- The light or dark part of a theme is not a table. -/
  | variantNotTable (theme variant : String)
  /-- The styles of a theme are not a table. -/
  | stylesNotTable (theme : String)
  /-- A theme colors a style that does not exist. -/
  | unknownStyle (theme style : String)
deriving DecidableEq, Repr

/-- Why an operation is refused. -/
inductive Fault where
  /-- The disk refused to read or write. -/
  | disk
  /-- No file or folder is at a path. -/
  | fileNotFound (path : String)
  /-- A search pattern cannot be read. -/
  | badPattern
  /-- A theme file is not in the format of theme files. -/
  | badThemeFile
  /-- No theme has a name, in the light or dark variant asked for. -/
  | unknownTheme (name : String)
  /-- A value stands where a color is expected. -/
  | badColor (place value : String)
  /-- A file does not hold text. -/
  | notText (path : String)
  /-- A search was started while another one runs. -/
  | searchRunning
  /-- No document has a number. -/
  | noSuchDocument (index : Nat)
  /-- A theme file holds something other than themes. -/
  | theme (fault : ThemeFault)
  /-- A document that has no path was to be saved. -/
  | noFileName
  /-- Nothing was given to replace. -/
  | emptyPattern
deriving DecidableEq, Repr

/-- The wording of a fault in a theme. -/
def ThemeFault.message : ThemeFault → String
  | .notTable theme => "theme '" ++ theme ++ "' must be a table"
  | .unknownVariant theme variant =>
    "theme '" ++ theme ++ "' has unknown variant '" ++ variant ++ "'"
  | .variantNotTable theme variant =>
    "theme '" ++ theme ++ "." ++ variant ++ "' must be a table"
  | .stylesNotTable theme => "theme '" ++ theme ++ "' styles must be a table"
  | .unknownStyle theme style =>
    "theme '" ++ theme ++ "' has unknown style '" ++ style ++ "'"

/-- The wording of a fault. -/
def Fault.message : Fault → String
  | .disk => "I/O error"
  | .fileNotFound path => "File not found: " ++ path
  | .badPattern => "Invalid pattern"
  | .badThemeFile => "Invalid theme file"
  | .unknownTheme name => "Unknown theme: " ++ name
  | .badColor place value => "Invalid color for " ++ place ++ ": " ++ value
  | .notText path => "Not a text file: " ++ path
  | .searchRunning => "A search is already running"
  | .noSuchDocument index => "No such document: " ++ toString index
  | .theme fault => fault.message
  | .noFileName => "document has no file name"
  | .emptyPattern => "empty pattern"

end EditorCore
