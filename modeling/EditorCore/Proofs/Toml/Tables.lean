import EditorCore.Toml.Reader
import Mathlib.Data.List.Nodup
import Mathlib.Data.List.Perm.Basic

/-!
# The order of keys

Every table that a file amounts to has its keys once and in order, however deep it stands. While
the file is read no table gets a key twice: that is what each change of a table preserves, and
with it each line and the whole file. The keys are put in order at the end.
-/

namespace EditorCore.Toml

variable {value : Value} {text rest : List Char} {dotted : Bool} {change : Entries.Change}
  {entries : Entries} {item : Item} {key : String} {keys : List String}

/-! ### Sorting -/

/-- What is sorted by texts has them in order. -/
theorem pairwise_mergeSort_by {α : Type} (textOf : α → String) (items : List α) :
    (items.mergeSort fun a b => decide (textOf a ≤ textOf b)).Pairwise
      fun a b => textOf a ≤ textOf b := by
  refine (List.pairwise_mergeSort ?_ ?_ items).imp of_decide_eq_true
  · intro a b c hab hbc
    exact decide_eq_true (String.le_trans (of_decide_eq_true hab) (of_decide_eq_true hbc))
  · intro a b
    simpa using String.le_total (textOf a) (textOf b)

/-! ### Values and items -/

namespace Value

/-- A value that holds no other values. -/
def IsPlain : Value → Prop
  | .array _ | .table _ => False
  | _ => True

/-- All tables in a value have their keys once and in order. -/
inductive IsOrdered : Value → Prop where
  /-- There is no table. -/
  | plain {value : Value} (h : value.IsPlain) : IsOrdered value
  /-- Every item is in order. -/
  | array {items : List Value} (h : ∀ item ∈ items, IsOrdered item) : IsOrdered (.array items)
  /-- The keys rise, and every value is in order. -/
  | table {entries : Table} (rising : entries.Pairwise (·.1 < ·.1))
      (h : ∀ entry ∈ entries, IsOrdered entry.2) : IsOrdered (.table entries)

theorem isOrdered_table_iff {table : Table} :
    (Value.table table).IsOrdered ↔
      table.Pairwise (·.1 < ·.1) ∧ ∀ entry ∈ table, entry.2.IsOrdered := by
  constructor
  · intro h
    cases h with
    | plain h => exact h.elim
    | table rising h => exact ⟨rising, h⟩
  · exact fun h => .table h.1 h.2

end Value

variable {table : Table}

theorem Value.IsOrdered.rising (h : (Value.table table).IsOrdered) :
    table.Pairwise (·.1 < ·.1) :=
  (isOrdered_table_iff.1 h).1

theorem Value.IsOrdered.of_mem {entry : String × Value} (h : (Value.table table).IsOrdered)
    (hmem : entry ∈ table) : entry.2.IsOrdered :=
  (isOrdered_table_iff.1 h).2 entry hmem

theorem Value.IsOrdered.tail {entry : String × Value}
    (h : (Value.table (entry :: table)).IsOrdered) : (Value.table table).IsOrdered :=
  .table h.rising.of_cons fun _ hmem => h.of_mem (List.mem_cons_of_mem _ hmem)

/-- All tables in an item have their keys once. -/
inductive Item.IsDistinct : Item → Prop where
  /-- A value is complete, so its keys are in order already. -/
  | value {value : Value} (h : value.IsOrdered) : IsDistinct (.value value)
  /-- The keys differ, and every item is distinct. -/
  | table {origin : Origin} {entries : Entries} (nodup : (entries.map (·.1)).Nodup)
      (h : ∀ entry ∈ entries, IsDistinct entry.2) : IsDistinct (.table origin entries)
  /-- The keys of every table of the array differ. -/
  | tables {elements : List Entries} (nodup : ∀ entries ∈ elements, (entries.map (·.1)).Nodup)
      (h : ∀ entries ∈ elements, ∀ entry ∈ entries, IsDistinct entry.2) :
      IsDistinct (.tables elements)

namespace Entries

/-- Entries whose keys differ, and so do those of all tables within. -/
structure IsDistinct (entries : Entries) : Prop where
  nodup : (entries.map (·.1)).Nodup
  items : ∀ entry ∈ entries, entry.2.IsDistinct

theorem isDistinct_nil : IsDistinct [] := ⟨by simp, by simp⟩

theorem isDistinct_table_iff {origin : Origin} :
    (Item.table origin entries).IsDistinct ↔ IsDistinct entries := by
  constructor
  · intro h
    cases h with
    | table nodup h => exact ⟨nodup, h⟩
  · exact fun h => .table h.nodup h.items

theorem isDistinct_tables_iff {elements : List Entries} :
    (Item.tables elements).IsDistinct ↔ ∀ entries ∈ elements, IsDistinct entries := by
  constructor
  · intro h
    cases h with
    | tables nodup h => exact fun entries hmem => ⟨nodup entries hmem, h entries hmem⟩
  · exact fun h => .tables (fun entries hmem => (h entries hmem).nodup)
      fun entries hmem => (h entries hmem).items

theorem IsDistinct.of_lookup (h : IsDistinct entries) (hkey : entries.lookup key = some item) :
    item.IsDistinct := by
  obtain ⟨front, behind, rfl, -⟩ := List.lookup_eq_some_iff.1 hkey
  exact h.items (key, item) (by simp)

/-! ### Changing a table -/

theorem mem_put {entry : String × Item} (h : entry ∈ put key item entries) :
    entry = (key, item) ∨ entry ∈ entries := by
  induction entries with
  | nil => exact .inl (by simpa [put] using h)
  | cons first others ih =>
      rw [put] at h
      split at h
      · rcases List.mem_cons.1 h with rfl | hmem
        · exact .inl rfl
        · exact .inr (List.mem_cons_of_mem _ hmem)
      · rcases List.mem_cons.1 h with rfl | hmem
        · exact .inr List.mem_cons_self
        · exact (ih hmem).imp_right (List.mem_cons_of_mem _)

theorem nodup_keys_put (h : (entries.map (·.1)).Nodup) :
    ((put key item entries).map (·.1)).Nodup := by
  induction entries with
  | nil => simp [put]
  | cons first others ih =>
      rw [List.map_cons, List.nodup_cons] at h
      rw [put]
      split
      · next hsame => exact List.nodup_cons.2 ⟨hsame ▸ h.1, h.2⟩
      · next hother =>
          refine List.nodup_cons.2 ⟨?_, ih h.2⟩
          intro hmem
          obtain ⟨entry, hentry, hkey⟩ := List.mem_map.1 hmem
          rcases mem_put hentry with rfl | hold
          · exact hother hkey.symm
          · exact h.1 (List.mem_map.2 ⟨entry, hold, hkey⟩)

theorem IsDistinct.put (h : IsDistinct entries) (hitem : item.IsDistinct) :
    IsDistinct (put key item entries) := by
  refine ⟨nodup_keys_put h.nodup, ?_⟩
  intro entry hmem
  rcases mem_put hmem with rfl | hold
  · exact hitem
  · exact h.items entry hold

/-- A change that does not give any table a key twice. -/
def KeepsDistinct (change : Change) : Prop :=
  ∀ before after, change before = some after → IsDistinct before.2 → IsDistinct after.2

/-- A change further in is as good as the change itself. -/
theorem KeepsDistinct.changeAt (hchange : KeepsDistinct change) (keys : List String) :
    KeepsDistinct (changeAt dotted change keys) := by
  induction keys with
  | nil => exact hchange
  | cons key keys ih =>
      rintro ⟨origin, entries⟩ after h hentries
      rw [Entries.changeAt] at h
      split at h
      -- a table that is missing on the way begins empty, so it is distinct too
      · obtain ⟨⟨inner, items⟩, hinner, hafter⟩ := Option.bind_eq_some_iff.1 h
        obtain rfl := Option.some.inj hafter
        exact hentries.put (isDistinct_table_iff.2 (ih _ _ hinner isDistinct_nil))
      · simp at h
      · next elements hkey =>
          obtain ⟨last, hlast, hrest⟩ := Option.bind_eq_some_iff.1 h
          obtain ⟨⟨inner, items⟩, hinner, hafter⟩ := Option.bind_eq_some_iff.1 hrest
          obtain rfl := Option.some.inj hafter
          have helements := isDistinct_tables_iff.1 (hentries.of_lookup hkey)
          have hitems : IsDistinct items :=
            ih _ _ hinner (helements last (List.mem_of_getLast? hlast))
          refine hentries.put (isDistinct_tables_iff.2 ?_)
          intro other hmem
          rcases List.mem_append.1 hmem with hfront | hnew
          · exact helements other (List.dropLast_subset _ hfront)
          · exact List.mem_singleton.1 hnew ▸ hitems
      · next inner items hkey =>
          split at h
          · simp at h
          · obtain ⟨⟨inner, items⟩, hinner, hafter⟩ := Option.bind_eq_some_iff.1 h
            obtain rfl := Option.some.inj hafter
            have hitems := isDistinct_table_iff.1 (hentries.of_lookup hkey)
            exact hentries.put (isDistinct_table_iff.2 (ih _ _ hinner hitems))

theorem keepsDistinct_addValue (hvalue : value.IsOrdered) :
    KeepsDistinct (addValue dotted key value) := by
  rintro ⟨origin, entries⟩ after h hentries
  rw [addValue] at h
  split at h
  · simp at h
  · obtain rfl := Option.some.inj h
    exact hentries.put (.value hvalue)

theorem keepsDistinct_assign (hvalue : value.IsOrdered) : KeepsDistinct (assign keys value) := by
  intro before after h
  obtain ⟨key, -, hchange⟩ := Option.bind_eq_some_iff.1 h
  exact (keepsDistinct_addValue hvalue).changeAt _ _ _ hchange

theorem keepsDistinct_openTable : KeepsDistinct (openTable keys) := by
  intro before after h
  obtain ⟨key, -, hchange⟩ := Option.bind_eq_some_iff.1 h
  refine KeepsDistinct.changeAt ?_ _ _ _ hchange
  rintro ⟨origin, entries⟩ after h hentries
  dsimp only at h
  split at h
  · obtain rfl := Option.some.inj h
    exact hentries.put (isDistinct_table_iff.2 isDistinct_nil)
  · next items hkey =>
      obtain rfl := Option.some.inj h
      have hitems := isDistinct_table_iff.1 (hentries.of_lookup hkey)
      exact hentries.put (isDistinct_table_iff.2 hitems)
  · simp at h

theorem keepsDistinct_openElement : KeepsDistinct (openElement keys) := by
  intro before after h
  obtain ⟨key, -, hchange⟩ := Option.bind_eq_some_iff.1 h
  refine KeepsDistinct.changeAt ?_ _ _ _ hchange
  rintro ⟨origin, entries⟩ after h hentries
  dsimp only at h
  split at h
  · obtain rfl := Option.some.inj h
    refine hentries.put (isDistinct_tables_iff.2 ?_)
    exact List.forall_mem_singleton.2 isDistinct_nil
  · next elements hkey =>
      obtain rfl := Option.some.inj h
      have helements := isDistinct_tables_iff.1 (hentries.of_lookup hkey)
      refine hentries.put (isDistinct_tables_iff.2 ?_)
      exact List.forall_mem_append.2 ⟨helements, List.forall_mem_singleton.2 isDistinct_nil⟩
  · simp at h

/-! ### The table that entries amount to -/

theorem mem_inKeyOrder {entry : String × Value} :
    entry ∈ inKeyOrder table ↔ entry ∈ table :=
  (List.mergeSort_perm _ _).mem_iff

/-- Keys that differ rise when they are put in order. -/
theorem pairwise_inKeyOrder (h : (table.map (·.1)).Nodup) :
    (inKeyOrder table).Pairwise (·.1 < ·.1) := by
  have hnodup : (inKeyOrder table).Pairwise fun a b => a.1 ≠ b.1 :=
    List.pairwise_map.1 (((List.mergeSort_perm _ _).map _).nodup_iff.2 h)
  -- sorting gives an order that may repeat; that keys differ makes it strict
  refine ((pairwise_mergeSort_by (·.1) table).and hnodup).imp ?_
  rintro a b ⟨hle, hne⟩
  exact Std.lt_of_le_of_ne hle hne

theorem valuesOf_eq (entries : Entries) :
    valuesOf entries = entries.map fun entry => (entry.1, valueOf entry.2) := by
  induction entries with
  | nil => rfl
  | cons entry others ih => rw [valuesOf, ih, List.map_cons]

theorem tablesOf_eq (elements : List Entries) :
    tablesOf elements = elements.map fun entries => .table (toTable entries) := by
  induction elements with
  | nil => rfl
  | cons entries others ih => rw [tablesOf, ih, List.map_cons, toTable]

/-- Keys that differ are in order in the table, if they are so in its values. -/
theorem isOrdered_toTable_of_values (hnodup : (entries.map (·.1)).Nodup)
    (hvalues : ∀ entry ∈ entries, (valueOf entry.2).IsOrdered) :
    (Value.table (toTable entries)).IsOrdered := by
  refine .table (pairwise_inKeyOrder ?_) ?_
  · rwa [valuesOf_eq, List.map_map]
  · intro entry hmem
    rw [toTable, mem_inKeyOrder, valuesOf_eq] at hmem
    obtain ⟨source, hsource, rfl⟩ := List.mem_map.1 hmem
    exact hvalues source hsource

theorem isOrdered_valueOf (h : item.IsDistinct) : (valueOf item).IsOrdered := by
  induction h with
  | value h => simpa only [valueOf] using h
  | table nodup _ ih =>
      rw [valueOf]
      exact isOrdered_toTable_of_values nodup ih
  | tables nodup _ ih =>
      rw [valueOf, tablesOf_eq]
      refine .array ?_
      intro table hmem
      obtain ⟨entries, hentries, rfl⟩ := List.mem_map.1 hmem
      exact isOrdered_toTable_of_values (nodup entries hentries) (ih entries hentries)

theorem IsDistinct.isOrdered_toTable (h : IsDistinct entries) :
    (Value.table (toTable entries)).IsOrdered :=
  isOrdered_toTable_of_values h.nodup fun entry hmem => isOrdered_valueOf (h.items entry hmem)

end Entries

/-! ### Looking up keys -/

theorem lookup_eq_some_iff_mem (h : table.Pairwise (·.1 < ·.1)) :
    table.lookup key = some value ↔ (key, value) ∈ table := by
  rw [List.lookup_eq_some_iff]
  constructor
  · rintro ⟨front, behind, rfl, -⟩
    simp
  · intro hmem
    obtain ⟨front, behind, rfl⟩ := List.append_of_mem hmem
    refine ⟨front, behind, rfl, ?_⟩
    intro entry hentry
    have hlt : entry.1 < key := (List.pairwise_append.1 h).2.2 entry hentry _ List.mem_cons_self
    rw [bne_iff_ne]
    rintro rfl
    exact String.lt_irrefl _ hlt

theorem lookup_eq_none_iff_not_mem : table.lookup key = none ↔ ∀ value, (key, value) ∉ table := by
  simp only [List.lookup_eq_none_iff, bne_iff_ne, Prod.forall]
  constructor
  · exact fun h value hmem => h _ _ hmem rfl
  · rintro h _ value hmem rfl
    exact h value hmem

/-- A key that rises stands once. -/
theorem eq_of_mem_of_mem {other : Value} (h : table.Pairwise (·.1 < ·.1))
    (hvalue : (key, value) ∈ table) (hother : (key, other) ∈ table) : value = other := by
  rw [← lookup_eq_some_iff_mem h] at hvalue hother
  exact Option.some.inj (hvalue.symm.trans hother)

/-! ### Readers -/

/-- All that a reader takes has a property. -/
def Yields {α : Type} (reader : Reader α) (p : α → Prop) : Prop :=
  ∀ text read rest, reader text = some (read, rest) → p read

theorem yields_specialFloat : Yields specialFloat Value.IsPlain := by
  intro text read rest h
  rw [specialFloat] at h
  split at h
  split at h
  · cases h
    trivial
  · cases h
    trivial
  · simp at h

theorem isPlain_of_integerOf? {number : Int} {read : Value}
    (h : integerOf? number text = some (read, rest)) : read.IsPlain := by
  rw [integerOf?] at h
  split at h
  · cases h
    trivial
  · simp at h

theorem yields_integerValue : Yields integerValue Value.IsPlain := by
  intro text read rest h
  rw [integerValue.eq_def] at h
  split at h
  all_goals
    obtain ⟨⟨digits, behind⟩, -, hnumber⟩ := Option.bind_eq_some_iff.1 h
    exact isPlain_of_integerOf? hnumber

theorem yields_decimalFloat : Yields decimalFloat Value.IsPlain := by
  intro text read rest h
  rw [decimalFloat] at h
  split at h
  obtain ⟨⟨whole, behind⟩, -, h⟩ := Option.bind_eq_some_iff.1 h
  obtain ⟨⟨fraction, behind⟩, -, h⟩ := Option.bind_eq_some_iff.1 h
  obtain ⟨⟨exponent, behind⟩, -, h⟩ := Option.bind_eq_some_iff.1 h
  dsimp only at h
  split at h
  · simp at h
  · split at h
    · simp at h
    · cases h
      trivial

theorem yields_numberOrDate : Yields numberOrDate Value.IsPlain := by
  intro text read rest h
  rw [numberOrDate] at h
  split at h
  · obtain ⟨⟨date, behind⟩, -, hread⟩ := Option.map_eq_some_iff.1 h
    cases hread
    trivial
  · have hnumber : decimalFloat text = some (read, rest) ∨
        (specialFloat text).or (integerValue text) = some (read, rest) := by
      dsimp only at h
      split at h
      · split at h
        · exact .inl h
        · exact .inr h
      · exact .inr h
    rcases hnumber with hdecimal | hother
    · exact yields_decimalFloat _ _ _ hdecimal
    · rcases Option.or_eq_some_iff.1 hother with hfloat | ⟨-, hinteger⟩
      · exact yields_specialFloat _ _ _ hfloat
      · exact yields_integerValue _ _ _ hinteger

/-- A value that begins with no bracket holds no other values. -/
theorem yields_scalar : Yields scalar Value.IsPlain := by
  intro text read rest h
  rw [scalar.eq_def] at h
  split at h
  · simp at h
  · split_ifs at h
    · obtain ⟨⟨string, behind⟩, -, hread⟩ := Option.map_eq_some_iff.1 h
      cases hread
      trivial
    · obtain ⟨behind, -, hread⟩ := Option.map_eq_some_iff.1 h
      cases hread
      trivial
    · obtain ⟨behind, -, hread⟩ := Option.map_eq_some_iff.1 h
      cases hread
      trivial
    · exact yields_specialFloat _ _ _ h
    · exact yields_numberOrDate _ _ _ h

theorem yields_items {item : Reader Value} (hitem : Yields item Value.IsOrdered) (fuel : Nat) :
    Yields (items item fuel) fun read => ∀ value ∈ read, value.IsOrdered := by
  induction fuel with
  | zero =>
      intro text read rest h
      simp [items] at h
  | succ fuel ih =>
      intro text read rest h
      rw [items] at h
      split at h
      · cases h
        simp
      · obtain ⟨⟨first, behind⟩, hfirst, h⟩ := Option.bind_eq_some_iff.1 h
        dsimp only at h
        split at h
        · obtain ⟨⟨others, behind⟩, hothers, hread⟩ := Option.bind_eq_some_iff.1 h
          cases hread
          exact List.forall_mem_cons.2 ⟨hitem _ _ _ hfirst, ih _ _ _ hothers⟩
        · cases h
          exact List.forall_mem_singleton.2 (hitem _ _ _ hfirst)
        · simp at h

theorem yields_pairs {item : Reader Value} (hitem : Yields item Value.IsOrdered) (fuel : Nat)
    (hentries : Entries.IsDistinct entries) :
    Yields (pairs item fuel entries) Entries.IsDistinct := by
  induction fuel generalizing entries with
  | zero =>
      intro text read rest h
      simp [pairs] at h
  | succ fuel ih =>
      intro text read rest h
      rw [pairs] at h
      obtain ⟨⟨keys, behind⟩, -, h⟩ := Option.bind_eq_some_iff.1 h
      obtain ⟨behind, -, h⟩ := Option.bind_eq_some_iff.1 h
      obtain ⟨⟨value, behind⟩, hvalue, h⟩ := Option.bind_eq_some_iff.1 h
      obtain ⟨⟨origin, changed⟩, hassign, h⟩ := Option.bind_eq_some_iff.1 h
      have hchanged : Entries.IsDistinct changed :=
        Entries.keepsDistinct_assign (hitem _ _ _ hvalue) _ _ hassign hentries
      dsimp only at h
      split at h
      · exact ih hchanged _ _ _ h
      · cases h
        exact hchanged
      · simp at h

theorem yields_inlineTable {item : Reader Value} (hitem : Yields item Value.IsOrdered) :
    Yields (inlineTable item) Value.IsOrdered := by
  intro text read rest h
  rw [inlineTable] at h
  split at h
  · cases h
    exact .table (by simp) (by simp)
  · obtain ⟨⟨entries, behind⟩, hentries, hread⟩ := Option.bind_eq_some_iff.1 h
    cases hread
    exact (yields_pairs hitem _ Entries.isDistinct_nil _ _ _ hentries).isOrdered_toTable

theorem yields_value (depth : Nat) : Yields (Toml.value depth) Value.IsOrdered := by
  induction depth with
  | zero =>
      intro text read rest h
      exact .plain (yields_scalar _ _ _ (by simpa [Toml.value] using h))
  | succ depth ih =>
      intro text read rest h
      rw [Toml.value.eq_def] at h
      split at h
      · next hdepth =>
          cases hdepth
          obtain ⟨⟨items, behind⟩, hitems, hread⟩ := Option.bind_eq_some_iff.1 h
          cases hread
          exact .array (yields_items ih _ _ _ _ hitems)
      · next hdepth =>
          cases hdepth
          exact yields_inlineTable ih _ _ _ h
      · exact .plain (yields_scalar _ _ _ h)

/-! ### Lines -/

/-- A line adds to the tables of the file; it does not repeat a key. -/
theorem yields_line {reading : Reading} (hroot : Entries.IsDistinct reading.root) :
    Yields (line reading) fun read => Entries.IsDistinct read.root := by
  intro text read rest h
  rw [line.eq_def] at h
  split at h
  · obtain ⟨⟨keys, behind⟩, -, h⟩ := Option.bind_eq_some_iff.1 h
    obtain ⟨behind, -, h⟩ := Option.bind_eq_some_iff.1 h
    obtain ⟨⟨origin, root⟩, hopen, hread⟩ := Option.bind_eq_some_iff.1 h
    cases hread
    exact Entries.keepsDistinct_openElement _ _ hopen hroot
  · obtain ⟨⟨keys, behind⟩, -, h⟩ := Option.bind_eq_some_iff.1 h
    obtain ⟨behind, -, h⟩ := Option.bind_eq_some_iff.1 h
    obtain ⟨⟨origin, root⟩, hopen, hread⟩ := Option.bind_eq_some_iff.1 h
    cases hread
    exact Entries.keepsDistinct_openTable _ _ hopen hroot
  · obtain ⟨⟨keys, behind⟩, -, h⟩ := Option.bind_eq_some_iff.1 h
    obtain ⟨behind, -, h⟩ := Option.bind_eq_some_iff.1 h
    obtain ⟨⟨value, behind⟩, hvalue, h⟩ := Option.bind_eq_some_iff.1 h
    obtain ⟨⟨origin, root⟩, hfill, hread⟩ := Option.bind_eq_some_iff.1 h
    cases hread
    have hassign : Entries.KeepsDistinct (Entries.assign keys value) :=
      Entries.keepsDistinct_assign (yields_value _ _ _ _ hvalue)
    exact hassign.changeAt reading.current _ _ hfill hroot

theorem isDistinct_lines {reading read : Reading} {fuel : Nat}
    (hroot : Entries.IsDistinct reading.root) (h : lines fuel reading text = some read) :
    Entries.IsDistinct read.root := by
  induction fuel generalizing reading text with
  | zero => simp [lines] at h
  | succ fuel ih =>
      rw [lines] at h
      split at h
      · cases h
        exact hroot
      · split at h
        · obtain ⟨behind, -, h⟩ := Option.bind_eq_some_iff.1 h
          exact ih hroot h
        · obtain ⟨⟨changed, behind⟩, hline, h⟩ := Option.bind_eq_some_iff.1 h
          obtain ⟨behind, -, h⟩ := Option.bind_eq_some_iff.1 h
          exact ih (yields_line hroot _ _ _ hline) h

/-- A parser gives tables in which, and in all tables within, keys come once and in order. -/
def OrdersKeys (parse? : List Char → Option Table) : Prop :=
  ∀ text table, parse? text = some table → (Value.table table).IsOrdered

/-- In the table that a file amounts to, and in all tables within, keys come once and in order. -/
theorem ordersKeys_read? : OrdersKeys read? := by
  intro text table h
  obtain ⟨reading, hlines, htable⟩ := Option.bind_eq_some_iff.1 h
  cases htable
  exact (isDistinct_lines Entries.isDistinct_nil hlines).isOrdered_toTable

end EditorCore.Toml
