import EditorCore.Style.Category

/-!
# Style registries

The categories that the highlighting of one language can assign, numbered from
zero in the order of the list, each with its weight.
-/

namespace EditorCore

/-- The numbered categories of a language. -/
structure Registry where
  /-- The name under which the language is registered. -/
  language : String
  /-- Each category, and whether it is drawn bold. -/
  entries : List (Category × Bool)
deriving Repr

namespace Registry

/-- The category with a number. -/
def category? (registry : Registry) (id : Nat) : Option Category :=
  registry.entries[id]?.map (·.1)

/-- The number of a category. -/
def id? (registry : Registry) (category : Category) : Option Nat :=
  registry.entries.findIdx? (·.1 = category)

/-- Whether a category is drawn bold; one without a number is not. -/
def isBold (registry : Registry) (category : Category) : Bool :=
  (registry.entries.find? (·.1 = category)).any (·.2)

/-- The name of a numbered category; the empty text for a number not in use. -/
def description (registry : Registry) (id : Nat) : String :=
  ((registry.category? id).map (·.name)).getD ""

end Registry

end EditorCore
