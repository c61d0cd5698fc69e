import EditorCore.Text.Letter

/-!
# Quoted text

Showing a text on one line so that every character can be told: between double
quotes, with escapes for what could not be seen or would end the quotation.
-/

namespace EditorCore.Text

/-- The half-width sound marks of Katakana, which extend a character and yet stand by themselves. -/
def soundMarks : CharSet := .ofTable "ff9e-ff9f"

/-- The characters that are shown as themselves only where another one stands for them. -/
def unseen : CharSet := (CharSet.union extending ignorable).diff soundMarks

/-- Whether a character is shown as itself: it takes up ink, or is the plain space. -/
def isPrintable (c : Char) : Bool :=
  c == ' ' || (!(generalCategory c).isInvisible && !unseen.contains c)

/-- A character by its code point, in hexadecimal without leading zeros. -/
def codePointEscape (c : Char) : List Char :=
  ['\\', 'u', '\x7b'] ++ Nat.toDigits 16 c.toNat ++ ['\x7d']

/-- A character as it is written between quotes. -/
def escapeChar (c : Char) : List Char :=
  if c = '\x00' then ['\\', '0']
  else if c = '\t' then ['\\', 't']
  else if c = '\r' then ['\\', 'r']
  else if c = '\n' then ['\\', 'n']
  else if c = '\\' then ['\\', '\\']
  else if c = '"' then ['\\', '"']
  else if isPrintable c then [c]
  else codePointEscape c

/-- A text between double quotes. -/
def quoted (text : List Char) : List Char := '"' :: text.flatMap escapeChar ++ ['"']

end EditorCore.Text
