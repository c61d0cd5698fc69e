import EditorCore.Pattern.Regex
import EditorCore.Text.Age
import EditorCore.Text.Property
import EditorCore.Text.Script
import EditorCore.Text.Segment

/-!
# Classes by name

The classes of characters that a regular expression can ask for: by the name of a
property, of a general category or of a script, or by a property and its value. Small
letters, blanks, hyphens and low lines make no difference in a name, nor does a
leading "is".
-/

namespace EditorCore

open Text

namespace ClassQuery

/-! ## Names -/

/-- The letters of a name that count: those of ASCII, made small. -/
def plainLetters (name : List Char) : List Char :=
  (name.filter fun c => c.toNat < 0x80 && c != ' ' && c != '_' && c != '-').map Char.toLower

/--
A name in the form in which names are compared. The short name of one property begins
with the letters that are otherwise left out.
-/
def plainName (name : List Char) : String :=
  let plain :=
    match name with
    | i :: s :: rest =>
      if i.toLower = 'i' && s.toLower = 's' then
        let rest := plainLetters rest
        if rest = ['c'] then ['i', 's', 'c'] else rest
      else plainLetters name
    | _ => plainLetters name
  String.ofList plain

/-! ## General categories -/

/-- Whether a category has a name, or belongs to a group of categories with that name. -/
def category? (name : String) : Option (GeneralCategory → Bool) :=
  match name with
  | "l" | "letter" => some (·.isLetter)
  | "lc" | "casedletter" =>
    some fun
      | .uppercaseLetter | .lowercaseLetter | .titlecaseLetter => true
      | _ => false
  | "lu" | "uppercaseletter" => some (· == .uppercaseLetter)
  | "ll" | "lowercaseletter" => some (· == .lowercaseLetter)
  | "lt" | "titlecaseletter" => some (· == .titlecaseLetter)
  | "lm" | "modifierletter" => some (· == .modifierLetter)
  | "lo" | "otherletter" => some (· == .otherLetter)
  | "m" | "mark" | "combiningmark" => some (·.isMark)
  | "mn" | "nonspacingmark" => some (· == .nonspacingMark)
  | "mc" | "spacingmark" => some (· == .spacingMark)
  | "me" | "enclosingmark" => some (· == .enclosingMark)
  | "n" | "number" => some (·.isNumber)
  | "nd" | "decimalnumber" | "digit" => some (· == .decimalNumber)
  | "nl" | "letternumber" => some (· == .letterNumber)
  | "no" | "othernumber" => some (· == .otherNumber)
  | "p" | "punctuation" | "punct" =>
    some fun
      | .connectorPunctuation | .dashPunctuation | .openPunctuation | .closePunctuation => true
      | .initialPunctuation | .finalPunctuation | .otherPunctuation => true
      | _ => false
  | "pc" | "connectorpunctuation" => some (· == .connectorPunctuation)
  | "pd" | "dashpunctuation" => some (· == .dashPunctuation)
  | "ps" | "openpunctuation" => some (· == .openPunctuation)
  | "pe" | "closepunctuation" => some (· == .closePunctuation)
  | "pi" | "initialpunctuation" => some (· == .initialPunctuation)
  | "pf" | "finalpunctuation" => some (· == .finalPunctuation)
  | "po" | "otherpunctuation" => some (· == .otherPunctuation)
  | "s" | "symbol" =>
    some fun
      | .mathSymbol | .currencySymbol | .modifierSymbol | .otherSymbol => true
      | _ => false
  | "sm" | "mathsymbol" => some (· == .mathSymbol)
  | "sc" | "currencysymbol" => some (· == .currencySymbol)
  | "sk" | "modifiersymbol" => some (· == .modifierSymbol)
  | "so" | "othersymbol" => some (· == .otherSymbol)
  | "z" | "separator" =>
    some fun
      | .spaceSeparator | .lineSeparator | .paragraphSeparator => true
      | _ => false
  | "zs" | "spaceseparator" => some (· == .spaceSeparator)
  | "zl" | "lineseparator" => some (· == .lineSeparator)
  | "zp" | "paragraphseparator" => some (· == .paragraphSeparator)
  | "c" | "other" =>
    some fun
      | .control | .format | .surrogate | .privateUse | .unassigned => true
      | _ => false
  | "cc" | "control" | "cntrl" => some (· == .control)
  | "cf" | "format" => some (· == .format)
  | "co" | "privateuse" => some (· == .privateUse)
  | "cn" | "unassigned" => some (· == .unassigned)
  | _ => none

/-- The characters of a general category, or of a group of them. -/
def categorySet? : String → Option CharSet
  | "any" => some .full
  | "ascii" => some .ascii
  | "assigned" => some (formerWhere (· == .unassigned)).complement
  | name => (category? name).map formerWhere

/-! ## Scripts and ages -/

/-- Other names of scripts than their codes and full names. -/
def scriptAliases : List (String × String) := [("qaac", "Copt"), ("qaai", "Zinh")]

/-- The code of the script with a name. -/
def scriptCode? (name : String) : Option String :=
  match scriptAliases.lookup name with
  | some code => some code
  | none =>
    (Script.names.find? fun (code, full) =>
      plainName code.toList = name || plainName full.toList = name).map (·.1)

/-- The characters that were there in an edition, which may be written with a letter in front. -/
def ageSet? (name : String) : Option CharSet :=
  match Age.editions.find? fun (edition, _) =>
      edition = name || "v" ++ String.ofList (edition.toList.filter (· != '.')) = name with
  | some (edition, _) => Age.setUpTo? edition
  | none => none

/-! ## Queries -/

/-- The names of categories that properties have for short names too; the category counts. -/
def contested : List String := ["cf", "sc", "lc"]

/-- The characters that a name stands for: first for a property, then a category, then a script. -/
def nameSet? (name : String) : Option CharSet :=
  let property := if contested.contains name then none else Property.setOf? name
  property <|> categorySet? name <|> (scriptCode? name).map Script.setOf

/-- The characters for which a property has a value. -/
def valueSet? (property value : String) : Option CharSet :=
  match property with
  | "gc" | "generalcategory" => categorySet? value
  | "sc" | "script" => (scriptCode? value).map Script.setOf
  | "scx" | "scriptextensions" => (scriptCode? value).map Script.usersOf
  | "age" => ageSet? value
  | "gcb" | "graphemeclusterbreak" => Segment.graphemeSet? value
  | "wb" | "wordbreak" => Segment.wordSet? value
  | "sb" | "sentencebreak" => Segment.sentenceSet? value
  | _ => none

/-- The characters that a query asks for, if it asks for a class. -/
def set? : ClassQuery → Option CharSet
  | .byName name => nameSet? (plainName name)
  | .byValue property value => valueSet? (plainName property) (plainName value)

end ClassQuery

namespace LetterClass

/-- The characters of words: of alphabets, marks, digits, connectors and joiners of any script. -/
def wordSet : CharSet :=
  .unions [Property.former alphabetic, .ofTable "200c-200d", formerWhere fun category =>
    category.isMark || category == .decimalNumber || category == .connectorPunctuation]

/-- The digits of any script. -/
def digitSet : CharSet := formerWhere (· == .decimalNumber)

/-- The blanks of any script. -/
def spaceSet : CharSet := .ofTable "9-d 20 85 a0 1680 2000-200a 2028-2029 202f 205f 3000"

/-- The characters of a class. -/
def set : LetterClass → CharSet
  | digit => digitSet
  | space => spaceSet
  | word => wordSet

/-- The characters of words in ASCII. -/
def asciiWordSet : CharSet := .ofTable "30-39 41-5a 5f 61-7a"

/-- The digits of ASCII. -/
def asciiDigitSet : CharSet := .ofTable "30-39"

/-- The blanks of ASCII. -/
def asciiSpaceSet : CharSet := .ofTable "9-d 20"

/-- The ASCII characters of a class. -/
def asciiSet : LetterClass → CharSet
  | digit => asciiDigitSet
  | space => asciiSpaceSet
  | word => asciiWordSet

end LetterClass

end EditorCore
