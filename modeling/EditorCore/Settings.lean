import EditorCore.Search.Basic
import EditorCore.Text.Lowercase
import EditorCore.Theme.Source

/-!
# Settings

What a user has chosen, kept in a file of lines that each give a key its value.
Lines that are empty or begin with a number sign do not count, and neither do
lines without an equals sign and keys that are not known. Of several lines for one
key the last one counts.
-/

namespace EditorCore

/-- What a user has chosen. -/
structure Settings where
  /-- The name of the theme. -/
  theme : List Char
  /-- Whether the dark variant of the theme is used. -/
  darkMode : Bool
  /-- A file with more themes. -/
  themeFile : Option Path
  /-- Whether searches match letters without regard to case. -/
  searchIgnoreCase : Bool
  /-- Whether searches look through hidden files and folders. -/
  searchHidden : Bool
  /-- Whether searches are for regular expressions. -/
  searchRegex : Bool
  /-- The number of items after which a search ends. -/
  maxSearchResults : Nat
deriving DecidableEq, Repr

namespace Settings

/-- What holds where nothing was chosen. -/
def standard : Settings where
  theme := Theme.builtinName.toList
  darkMode := true
  themeFile := none
  searchIgnoreCase := false
  searchHidden := false
  searchRegex := false
  maxSearchResults := 5000

/-- The largest number of items that can be chosen. -/
def resultsLimit : Nat := 100000

/-- The name of the settings file in the home folder. -/
def fileName : Name := ".epiccoder.conf".toList

/-- Where the settings of a user with a home folder are kept. -/
def pathIn (home : Path) : Path := home.join ⟨fileName⟩

/-- A text cut at its first equals sign, which is in neither part. -/
def splitEquals? (line : List Char) : Option (List Char × List Char) :=
  let key := line.takeWhile (· != '=')
  match line.drop key.length with
  | _ :: value => some (key, value)
  | [] => none

/-- The key and value that a line gives. -/
def readLine? (line : List Char) : Option (List Char × List Char) :=
  let line := Text.trim line
  if line.isEmpty ∨ line.head? = some '#' then none
  else (splitEquals? line).map fun (key, value) =>
    (Text.lowercase (Text.trim key), Text.trim value)

/-- The keys and values of a settings file, in the order of its lines. -/
def readLines (text : List Char) : List (List Char × List Char) :=
  (Text.lines text).filterMap readLine?

/-- The value that counts for a key. -/
def valueOf? (entries : List (List Char × List Char)) (key : String) : Option (List Char) :=
  (entries.reverse.find? (·.1 = key.toList)).map (·.2)

/-- Whether a value means yes. -/
def isYes (value : List Char) : Bool :=
  ["true", "yes", "on", "1"].contains (String.ofList (Text.lowercase value))

/-- A number of items between the least and the largest that can be chosen. -/
def clampResults (number : Nat) : Nat := min (max number 1) resultsLimit

/-- Settings with the choices of a file made. -/
def apply (settings : Settings) (entries : List (List Char × List Char)) : Settings :=
  let value? := valueOf? entries
  let yesOr := fun (key : String) (otherwise : Bool) => ((value? key).map isYes).getD otherwise
  { theme := ((value? "theme").filter (!·.isEmpty)).getD settings.theme
    darkMode := yesOr "dark-mode" settings.darkMode
    themeFile :=
      match value? "theme-file" with
      | some path => if path.isEmpty then none else some ⟨path⟩
      | none => settings.themeFile
    searchIgnoreCase := yesOr "search-ignore-case" settings.searchIgnoreCase
    searchHidden := yesOr "search-hidden" settings.searchHidden
    searchRegex := yesOr "search-regex" settings.searchRegex
    maxSearchResults :=
      (((value? "max-search-results").bind Text.readWord?).map clampResults).getD
        settings.maxSearchResults }

/-- The settings that the text of a settings file makes. -/
def ofText (text : List Char) : Settings := standard.apply (readLines text)

/-- The settings of a user; the standard ones if there is no file of text. -/
def load (disk : Disk) (home : Option Path) : Settings :=
  match home.bind fun home => disk.readText? (pathIn home) with
  | some text => ofText text
  | none => standard

/-- How a truth value is written. -/
def showBool (truth : Bool) : List Char := (if truth then "true" else "false").toList

/-- The lines of a settings file with these settings. -/
def toText (settings : Settings) : List Char :=
  let line := fun (key : String) (value : List Char) =>
    key.toList ++ " = ".toList ++ value ++ ['\n']
  "# epiccoder configuration\n# Generated automatically\n\n".toList ++
    line "theme" settings.theme ++
    line "dark-mode" (showBool settings.darkMode) ++
    line "theme-file" ((settings.themeFile.map (·.chars)).getD []) ++
    line "search-ignore-case" (showBool settings.searchIgnoreCase) ++
    line "search-hidden" (showBool settings.searchHidden) ++
    line "search-regex" (showBool settings.searchRegex) ++
    line "max-search-results" (toString settings.maxSearchResults).toList

/-- Write the settings of a user; one without a home folder keeps none. -/
def save (settings : Settings) (disk : Disk) (home : Option Path) : Except Fault Disk :=
  match home with
  | none => .ok disk
  | some home =>
    match disk.writeText? (pathIn home) settings.toText with
    | none => .error .disk
    | some written => .ok written

/-- All themes that the settings make available. -/
def themes (settings : Settings) (disk : Disk) : Except Fault ThemeSet :=
  match settings.themeFile with
  | none => .ok .builtin
  | some path => do
    let loaded ← ThemeSet.load? disk path
    pure (ThemeSet.builtin.merge loaded)

/-- The theme that the settings choose. -/
def theme? (settings : Settings) (disk : Disk) : Except Fault Theme := do
  let themes ← settings.themes disk
  let name := String.ofList settings.theme
  match themes.get? name (.ofDark settings.darkMode) with
  | some theme => pure theme
  | none => .error (.unknownTheme name)

/-- How searches are done under the settings. -/
def searchOptions (settings : Settings) : SearchOptions where
  ignoreCase := settings.searchIgnoreCase
  regex := settings.searchRegex
  includeHidden := settings.searchHidden
  maxResults := settings.maxSearchResults

end Settings

end EditorCore
