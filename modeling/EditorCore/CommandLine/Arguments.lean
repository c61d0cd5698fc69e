import EditorCore.File.Path
import EditorCore.Text.Decimal
import EditorCore.Text.LineEnding

/-!
# Command line arguments

Reading the words of a command line to a command. The first word names the
command; among the words behind it options may stand anywhere, until two hyphens
by themselves end them. Every option may be given once. Words that do not make up
a command are refused as a whole.
-/

namespace EditorCore.CommandLine

/-- What the program can be asked to do. -/
inductive Command where
  /-- Show a file with its styles: painted, or as a list of spans. -/
  | highlight (file : Path) (spans : Bool) (theme : Option (List Char)) (dark light : Bool)
      (background : Bool)
  /-- Search the files below a folder. -/
  | search (pattern : List Char) (root : Option Path) (ignoreCase regex hidden : Bool)
      (maxResults : Option Nat)
  /-- List the categories of a file's language. -/
  | styles (file : Path)
  /-- List the themes. -/
  | themes
  /-- Rewrite the line breaks of a file. -/
  | normalize (file : Path) (ending : LineEnding)
  /-- Replace a text in a file. -/
  | replace (file : Path) (pattern inserted : List Char) (dryRun : Bool)
  /-- Copy a file to a new name beside it. -/
  | duplicate (file : Path)
  /-- Show the settings. -/
  | settings (save : Bool)
  /-- Show a free name for a new file. -/
  | newName (extension : List Char) (stem : Option (List Char)) (root : Path)
  /-- Show the version of the program. -/
  | version
deriving DecidableEq, Repr

/-- The options that a command has, by their long names. -/
structure Options where
  /-- The options without a value. -/
  flags : List String := []
  /-- The options with a value. -/
  valued : List String := []
  /-- Letters that stand for options without a value. -/
  letters : List (Char × String) := []

/-- The words of a command, sorted. -/
structure Words where
  /-- The options without a value that were given. -/
  flags : List String := []
  /-- The options with a value that were given. -/
  values : List (String × List Char) := []
  /-- The words that are no options, in order. -/
  plain : List (List Char) := []

namespace Words

/-- Note an option without a value, once. -/
def addFlag? (words : Words) (name : String) : Option Words :=
  if words.flags.contains name then none else some { words with flags := name :: words.flags }

/-- Note an option with its value, once. -/
def addValue? (words : Words) (name : String) (value : List Char) : Option Words :=
  if words.values.any (·.1 == name) then none
  else some { words with values := (name, value) :: words.values }

/-- Note a word that is no option. -/
def addPlain (words : Words) (word : List Char) : Words :=
  { words with plain := words.plain ++ [word] }

/-- Whether an option without a value was given. -/
def has (words : Words) (name : String) : Bool := words.flags.contains name

/-- The value of an option, if it was given. -/
def value? (words : Words) (name : String) : Option (List Char) := words.values.lookup name

end Words

/-- Whether a word looks like an option; a hyphen by itself does not. -/
def looksLikeOption (word : List Char) : Bool := word.head? == some '-' && word != ['-']

/-- What a word before the end of the options means. -/
inductive Meaning where
  /-- The word ends the options. -/
  | finish
  /-- The word gives these options, which take no value. -/
  | flags (names : List String)
  /-- The word gives an option with the value behind its equals sign, if it has one. -/
  | valued (name : String) (value : Option (List Char))
  /-- The word is no option. -/
  | plain
deriving DecidableEq, Repr

namespace Options

/-- What the name behind two hyphens means, given what stands from its equals sign on. -/
def meaningOfName? (options : Options) (name : String) (given : List Char) : Option Meaning :=
  if options.flags.contains name then
    if given.isEmpty then some (.flags [name]) else none
  else if options.valued.contains name then some (.valued name given.tail?)
  else none

/-- What a word means; a word that looks like an option has to be one. -/
def meaning? (options : Options) : List Char → Option Meaning
  | ['-', '-'] => some .finish
  | '-' :: '-' :: long =>
    options.meaningOfName? (String.ofList (long.takeWhile (· != '='))) (long.dropWhile (· != '='))
  | '-' :: letter :: letters =>
    ((letter :: letters).mapM fun letter => options.letters.lookup letter).map .flags
  | _ => some .plain

end Options

/-- Sort the words of a command. -/
def sort (options : Options) (words : Words) : List (List Char) → Option Words
  | [] => some words
  | word :: rest =>
    match options.meaning? word with
    | none => none
    | some .finish => some (rest.foldl Words.addPlain words)
    | some .plain => sort options (words.addPlain word) rest
    | some (.flags names) => (names.foldlM Words.addFlag? words).bind (sort options · rest)
    | some (.valued name (some value)) => (words.addValue? name value).bind (sort options · rest)
    | some (.valued name none) =>
      match rest with
      | [] => none
      | value :: others =>
        if looksLikeOption value then none
        else (words.addValue? name value).bind (sort options · others)

/-- A path that was given; an empty one is refused. -/
def path? (word : List Char) : Option Path := if word.isEmpty then none else some ⟨word⟩

/-- The value of an option that may be missing, if it can be read. -/
def optional {α : Type} (read : List Char → Option α) : Option (List Char) → Option (Option α)
  | none => some none
  | some word => (read word).map some

/-- The line ending with a name, in small letters. -/
def ending? (word : List Char) : Option LineEnding :=
  match String.ofList word with
  | "lf" => some .lf
  | "crlf" => some .crlf
  | "cr" => some .cr
  | _ => none

/-- Read the words of the command that shows a file. -/
def highlight? (arguments : List (List Char)) : Option Command := do
  let options : Options :=
    { flags := ["runs", "dark", "light", "background"], valued := ["theme"] }
  let words ← sort options {} arguments
  match words.plain with
  | [file] => do
    let file ← path? file
    if words.has "dark" ∧ words.has "light" then none
    pure (.highlight file (words.has "runs") (words.value? "theme") (words.has "dark")
      (words.has "light") (words.has "background"))
  | _ => none

/-- Read the words of the command that searches. -/
def search? (arguments : List (List Char)) : Option Command := do
  let options : Options :=
    { flags := ["ignore-case", "regex", "hidden"]
      valued := ["max-results"]
      letters := [('i', "ignore-case")] }
  let words ← sort options {} arguments
  let maxResults ← optional Text.readWord? (words.value? "max-results")
  let command := fun (pattern : List Char) (root : Option Path) =>
    Command.search pattern root (words.has "ignore-case") (words.has "regex") (words.has "hidden")
      maxResults
  match words.plain with
  | [pattern] => some (command pattern none)
  | [pattern, root] => do
    let root ← path? root
    pure (command pattern (some root))
  | _ => none

/-- Read the words of a command that takes one file and no options. -/
def oneFile? (command : Path → Command) (arguments : List (List Char)) : Option Command := do
  let words ← sort {} {} arguments
  match words.plain with
  | [file] => (path? file).map command
  | _ => none

/-- Read the words of the command that lists the themes: there are none. -/
def themes? (arguments : List (List Char)) : Option Command := do
  let words ← sort {} {} arguments
  if words.plain.isEmpty then some .themes else none

/-- Read the words of the command that rewrites line breaks. -/
def normalize? (arguments : List (List Char)) : Option Command := do
  let words ← sort { valued := ["ending"] } {} arguments
  let ending ← optional ending? (words.value? "ending")
  match words.plain with
  | [file] => do
    let file ← path? file
    pure (.normalize file (ending.getD .lf))
  | _ => none

/-- Read the words of the command that replaces a text. -/
def replace? (arguments : List (List Char)) : Option Command := do
  let words ← sort { flags := ["dry-run"] } {} arguments
  match words.plain with
  | [file, pattern, inserted] => do
    let file ← path? file
    pure (.replace file pattern inserted (words.has "dry-run"))
  | _ => none

/-- Read the words of the command that shows the settings. -/
def settings? (arguments : List (List Char)) : Option Command := do
  let words ← sort { flags := ["save"] } {} arguments
  if words.plain.isEmpty then some (.settings (words.has "save")) else none

/-- Read the words of the command that shows a free name. -/
def newName? (arguments : List (List Char)) : Option Command := do
  let words ← sort { valued := ["stem", "root"] } {} arguments
  let root ← optional path? (words.value? "root")
  match words.plain with
  | [extension] =>
    some (.newName extension (words.value? "stem") (root.getD ⟨Path.here⟩))
  | _ => none

/-- The command that the words of a command line ask for. -/
def read? : List (List Char) → Option Command
  | [] => none
  | word :: arguments =>
    match String.ofList word with
    | "highlight" => highlight? arguments
    | "search" => search? arguments
    | "styles" => oneFile? .styles arguments
    | "themes" => themes? arguments
    | "normalize" => normalize? arguments
    | "replace" => replace? arguments
    | "duplicate" => oneFile? .duplicate arguments
    | "config" => settings? arguments
    | "new" => newName? arguments
    | "--version" => some .version
    | _ => if ['-', 'V'].isPrefixOf word then some .version else none

end EditorCore.CommandLine
