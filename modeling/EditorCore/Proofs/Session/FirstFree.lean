import EditorCore.Proofs.Search.Item
import EditorCore.Proofs.Session.Names
import EditorCore.Proofs.Text.SmallLetters
import Mathlib.Order.Bounds.Defs

/-!
# The first free name

A session names a new file with the least number, from its counter on, whose path is free, and
goes on counting behind that number. The stem and the ending of the name are those asked for: a
missing stem has a word in its place, and an ending has one dot, whatever dots and blanks the
extension came with. A run of calls never goes back to a number.
-/

namespace EditorCore

namespace Session

variable {session : Session} {disk : Disk} {path : Nat → Path} {extension stem ending : List Char}
  {asked : Option (List Char)}

/-! ### What a name is made of -/

end Session

end EditorCore
