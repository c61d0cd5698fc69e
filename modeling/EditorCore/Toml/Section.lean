import EditorCore.Toml.Value

/-!
# Tables being written

While a theme file is read, its tables remember how they came about, because that
decides what may still be added to them: a table under its own header is complete
once, one that only stands in the name of another may still get a header, and one
made by a dotted key may only get more dotted keys.
-/

namespace EditorCore.Toml

/-- How a table came about. -/
inductive Origin where
  /-- By a header of its own; the table around everything counts as such. -/
  | header
  /-- By the header of a table within it. -/
  | implied
  /-- By a dotted key. -/
  | dotted
deriving DecidableEq, Repr

/-- What stands under a key. -/
inductive Item where
  /-- A value that is complete. -/
  | value (value : Value)
  /-- A table. -/
  | table (origin : Origin) (entries : List (String × Item))
  /-- An array of tables, each under a header of its own. -/
  | tables (elements : List (List (String × Item)))

/-- The entries of a table being written. -/
abbrev Entries := List (String × Item)

namespace Entries

/-- Entries with an item put under a key. -/
def put (key : String) (item : Item) : Entries → Entries
  | [] => [(key, item)]
  | (other, old) :: rest =>
    if other = key then (key, item) :: rest else (other, old) :: put key item rest

/-- Changes a table: its origin and entries. -/
abbrev Change := Origin × Entries → Option (Origin × Entries)

/--
Change the table that keys lead to; tables on the way are made where they are
missing. Dotted keys do not lead into a table that has a header.
-/
def changeAt (dotted : Bool) (change : Change) : List String → Change
  | [], table => change table
  | key :: keys, (origin, entries) =>
    match entries.lookup key with
    | none => do
      let made := if dotted then Origin.dotted else Origin.implied
      let (inner, items) ← changeAt dotted change keys (made, [])
      pure (origin, put key (.table inner items) entries)
    | some (.value _) => none
    | some (.tables elements) => do
      let last ← elements.getLast?
      let (_, items) ← changeAt dotted change keys (.header, last)
      pure (origin, put key (.tables (elements.dropLast ++ [items])) entries)
    | some (.table inner items) =>
      if dotted ∧ inner = .header then none
      else do
        let (inner, items) ← changeAt dotted change keys (inner, items)
        pure (origin, put key (.table inner items) entries)

/-- Add a value under a new key, given whether the key is the last one of a dotted key. -/
def addValue (dotted : Bool) (key : String) (value : Value) : Change := fun (origin, entries) =>
  if decide (origin = .dotted) != dotted ∨ (entries.lookup key).isSome then none
  else some (origin, put key (.value value) entries)

/-- Add a value under a key that may be dotted. -/
def assign (keys : List String) (value : Value) : Change := fun table => do
  let key ← keys.getLast?
  let path := keys.dropLast
  changeAt true (addValue (!path.isEmpty) key value) path table

/-- Open a table under a header of its own, once. -/
def openTable (keys : List String) : Change := fun table => do
  let key ← keys.getLast?
  let enter : Change := fun (origin, entries) =>
    match entries.lookup key with
    | none => some (origin, put key (.table .header []) entries)
    | some (.table .implied items) => some (origin, put key (.table .header items) entries)
    | some _ => none
  changeAt false enter keys.dropLast table

/-- Open one more table of an array of tables. -/
def openElement (keys : List String) : Change := fun table => do
  let key ← keys.getLast?
  let enter : Change := fun (origin, entries) =>
    match entries.lookup key with
    | none => some (origin, put key (.tables [[]]) entries)
    | some (.tables elements) => some (origin, put key (.tables (elements ++ [[]])) entries)
    | some _ => none
  changeAt false enter keys.dropLast table

/-- Entries of values in the order of their keys. -/
def inKeyOrder (entries : Table) : Table := entries.mergeSort fun a b => decide (a.1 ≤ b.1)

mutual

/-- The value that an item amounts to. -/
def valueOf : Item → Value
  | .value value => value
  | .table _ entries => .table (inKeyOrder (valuesOf entries))
  | .tables elements => .array (tablesOf elements)

/-- The values of the entries of a table. -/
def valuesOf : List (String × Item) → Table
  | [] => []
  | (key, item) :: rest => (key, valueOf item) :: valuesOf rest

/-- The values of the elements of an array of tables. -/
def tablesOf : List (List (String × Item)) → List Value
  | [] => []
  | entries :: rest => .table (inKeyOrder (valuesOf entries)) :: tablesOf rest

end

/-- The table that entries amount to, in the order of its keys. -/
def toTable (entries : Entries) : Table := inKeyOrder (valuesOf entries)

end Entries

end EditorCore.Toml
