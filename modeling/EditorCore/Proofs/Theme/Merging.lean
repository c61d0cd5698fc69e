import EditorCore.Proofs.Theme.Reading

/-!
# Theme files on top of each other

Theme files are merged one after another on top of the built-in theme. Of a name and a variant the
whole theme of the last file counts that has a part for them; the built-in theme remains where no
file has one. The names of the themes are listed in order, each once, and no name is missing.
-/

namespace EditorCore

variable {name : String} {variant : Variant} {theme : Theme} {set read : ThemeSet}
  {table variants part : Toml.Table} {names : List String}

/-- The built-in theme of a variant. -/
def Theme.builtinFor : Variant → Theme
  | .light => builtinLight
  | .dark => builtinDark

namespace ThemeSet

/-! ### Sets of distinct themes -/

/-- No two themes have one name and variant. -/
def IsDistinct (set : ThemeSet) : Prop :=
  set.themes.Pairwise fun first second =>
    ¬ (first.name = second.name ∧ first.variant = second.variant)

theorem isFor_iff :
    isFor name variant theme = true ↔ theme.name = name ∧ theme.variant = variant := by
  simp [isFor]

theorem isDistinct_empty : empty.IsDistinct := List.Pairwise.nil

theorem IsDistinct.insert (h : set.IsDistinct) (theme : Theme) : (set.insert theme).IsDistinct := by
  refine List.pairwise_cons.2 ⟨?_, h.filter _⟩
  rintro second hsecond ⟨hname, hvariant⟩
  have hnot := (List.mem_filter.1 hsecond).2
  rw [isFor_iff.2 ⟨hname.symm, hvariant.symm⟩] at hnot
  simp at hnot

theorem IsDistinct.addVariants (h : set.IsDistinct)
    (hread : addVariants name set variants = .ok read) : read.IsDistinct := by
  induction variants generalizing set with
  | nil =>
      obtain rfl := Except.ok.inj hread
      exact h
  | cons entry variants ih =>
      obtain ⟨theme, -, hrest⟩ := bind_eq_ok_iff.1 hread
      exact ih (h.insert theme) hrest

theorem IsDistinct.addThemes (h : set.IsDistinct) (hread : addThemes set table = .ok read) :
    read.IsDistinct := by
  induction table generalizing set with
  | nil =>
      obtain rfl := Except.ok.inj hread
      exact h
  | cons entry table ih =>
      obtain ⟨variants, added, -, hadded, hrest⟩ := addThemes_cons_eq_ok_iff.1 hread
      exact ih (h.addVariants hadded) hrest

/-! ### Merging -/

theorem get?_cons (themes : List Theme) (theme : Theme) :
    get? ⟨theme :: themes⟩ name variant =
      if theme.name = name ∧ theme.variant = variant then some theme
      else get? ⟨themes⟩ name variant := by
  simp only [get?, List.find?_cons, ← isFor_iff]
  cases isFor name variant theme <;> rfl

theorem get?_eq_none_iff : set.get? name variant = none ↔
    ∀ theme ∈ set.themes, ¬ (theme.name = name ∧ theme.variant = variant) := by
  simp only [get?, List.find?_eq_none, isFor_iff]

theorem isSome_get?_iff : (set.get? name variant).isSome ↔
    ∃ theme ∈ set.themes, theme.name = name ∧ theme.variant = variant := by
  simp only [get?, List.find?_isSome, isFor_iff]

/-- The themes of the other set are in front of those of this one. -/
theorem get?_merge {other : ThemeSet} (h : other.IsDistinct) :
    (set.merge other).get? name variant =
      (other.get? name variant).or (set.get? name variant) := by
  obtain ⟨themes⟩ := other
  rw [merge]
  induction themes generalizing set with
  | nil => rfl
  | cons theme themes ih =>
      obtain ⟨hfirst, hothers⟩ := List.pairwise_cons.1 h
      rw [List.foldl_cons, ih hothers, get?_insert, get?_cons]
      split
      · next hfor =>
          -- no other theme is for the same name and variant, so this one is not covered again
          have hnone : get? ⟨themes⟩ name variant = none := by
            refine get?_eq_none_iff.2 fun second hsecond hsame => hfirst second hsecond ?_
            exact ⟨hfor.1.trans hsame.1.symm, hfor.2.trans hsame.2.symm⟩
          rw [hnone]
          rfl
      · rfl

theorem get?_builtin (name : String) (variant : Variant) : builtin.get? name variant =
    if name = Theme.builtinName then some (Theme.builtinFor variant) else none := by
  by_cases hname : name = Theme.builtinName
  · subst hname
    cases variant <;> rfl
  · have hall : ∀ theme ∈ builtin.themes, theme.name = Theme.builtinName := by decide
    rw [if_neg hname, get?_eq_none_iff]
    rintro theme htheme ⟨rfl, -⟩
    exact hname (hall theme htheme)

/-! ### Names -/

theorem mem_dropRepeats : name ∈ dropRepeats names ↔ name ∈ names := by
  fun_induction dropRepeats names with
  | case1 => rfl
  | case2 => rfl
  | case3 next rest ih => simp [ih]
  | case4 first next rest hne ih => simp [ih]

theorem pairwise_dropRepeats (h : names.Pairwise (· ≤ ·)) :
    (dropRepeats names).Pairwise (· < ·) := by
  fun_induction dropRepeats names with
  | case1 => exact .nil
  | case2 => exact List.pairwise_singleton _ _
  | case3 next rest ih => exact ih h.tail
  | case4 first next rest hne ih =>
      obtain ⟨hfirst, hothers⟩ := List.pairwise_cons.1 h
      refine List.pairwise_cons.2 ⟨?_, ih hothers⟩
      intro last hlast
      have hnext : first < next := Std.lt_of_le_of_ne (hfirst next List.mem_cons_self) hne
      rcases List.mem_cons.1 (mem_dropRepeats.1 hlast) with rfl | hlast
      · exact hnext
      · exact Std.lt_of_lt_of_le hnext ((List.pairwise_cons.1 hothers).1 last hlast)

theorem pairwise_names (set : ThemeSet) : set.names.Pairwise (· < ·) :=
  pairwise_dropRepeats (Toml.pairwise_mergeSort_by id _)

/-- The names are those of which there is some variant. -/
theorem mem_names_iff : name ∈ set.names ↔ ∃ variant, (set.get? name variant).isSome := by
  simp only [names, mem_dropRepeats, List.mem_mergeSort, List.mem_map, isSome_get?_iff]
  constructor
  · rintro ⟨theme, htheme, rfl⟩
    exact ⟨_, theme, htheme, rfl, rfl⟩
  · rintro ⟨variant, theme, htheme, hname, -⟩
    exact ⟨theme, htheme, hname⟩

/-! ### Sources -/

/-- A text that is accepted if some parser reads it, with the themes that are read from it. -/
structure Source (parse? : List Char → Option Toml.Table) where
  text : List Char
  themes : ThemeSet
  accepted : parsedBy parse? text = .ok themes

namespace Source

variable {parse? : List Char → Option Toml.Table} {source : Source parse?}
  {sources before after : List (Source parse?)}

/-- The text has a part for a name and a variant. -/
def Defines (source : Source parse?) (name : String) (variant : Variant) (part : Toml.Table) :
    Prop :=
  ∃ table, parse? source.text = some table ∧ HasPart table name variant part

theorem exists_table (source : Source parse?) : ∃ table, parse? source.text = some table ∧
    addThemes .empty table = .ok source.themes := by
  have hread := source.accepted
  rw [parsedBy] at hread
  split at hread
  · simp at hread
  · next table htable => exact ⟨table, htable, hread⟩

theorem isDistinct_themes (source : Source parse?) : source.themes.IsDistinct := by
  obtain ⟨table, -, hread⟩ := source.exists_table
  exact isDistinct_empty.addThemes hread

theorem exists_get?_of_defines (hparse : Toml.OrdersKeys parse?)
    (h : source.Defines name variant part) :
    ∃ theme, source.themes.get? name variant = some theme ∧ theme.name = name ∧
      theme.variant = variant ∧ theme.Describes part := by
  obtain ⟨table, htable, hpart⟩ := h
  obtain ⟨other, hother, hread⟩ := source.exists_table
  obtain rfl := Option.some.inj (hother.symm.trans htable)
  exact exists_get?_of_hasPart (hparse _ _ htable) hread hpart

theorem get?_eq_none_of_not_defines (hparse : Toml.OrdersKeys parse?)
    (h : ∀ part, ¬ source.Defines name variant part) :
    source.themes.get? name variant = none := by
  obtain ⟨table, htable, hread⟩ := source.exists_table
  exact get?_eq_none_of_not_hasPart (hparse _ _ htable) hread
    fun part hpart => h part ⟨table, htable, hpart⟩

theorem isSome_get?_iff_defines (hparse : Toml.OrdersKeys parse?) :
    (source.themes.get? name variant).isSome ↔ ∃ part, source.Defines name variant part := by
  constructor
  · intro hsome
    by_contra hnot
    rw [get?_eq_none_of_not_defines hparse (not_exists.1 hnot)] at hsome
    simp at hsome
  · rintro ⟨part, hpart⟩
    obtain ⟨theme, htheme, -⟩ := exists_get?_of_defines hparse hpart
    simp [htheme]

/-! ### Several sources -/

/-- A set with the themes of some sources, one source merged after another. -/
def mergeInto (set : ThemeSet) (sources : List (Source parse?)) : ThemeSet :=
  (sources.map (·.themes)).foldl merge set

theorem get?_mergeInto_cons : (mergeInto set (source :: sources)).get? name variant =
    (mergeInto (set.merge source.themes) sources).get? name variant := rfl

/-- Sources without a part for a name and a variant change nothing there. -/
theorem get?_mergeInto_of_not_defines (hparse : Toml.OrdersKeys parse?)
    (h : ∀ source ∈ sources, ∀ part, ¬ source.Defines name variant part) :
    (mergeInto set sources).get? name variant = set.get? name variant := by
  induction sources generalizing set with
  | nil => rfl
  | cons source sources ih =>
      rw [List.forall_mem_cons] at h
      rw [get?_mergeInto_cons, ih h.2, get?_merge source.isDistinct_themes,
        get?_eq_none_of_not_defines hparse h.1, Option.none_or]

/-- The theme of a source is there at the end, if no later source has another one. -/
theorem get?_mergeInto_of_last (hparse : Toml.OrdersKeys parse?)
    (htheme : source.themes.get? name variant = some theme)
    (hafter : ∀ later ∈ after, ∀ part, ¬ later.Defines name variant part) :
    (mergeInto set (before ++ source :: after)).get? name variant = some theme := by
  have hsplit : mergeInto set (before ++ source :: after) =
      mergeInto ((mergeInto set before).merge source.themes) after := by
    simp [mergeInto]
  rw [hsplit, get?_mergeInto_of_not_defines hparse hafter, get?_merge source.isDistinct_themes,
    htheme, Option.some_or]

theorem isSome_get?_mergeInto_iff (hparse : Toml.OrdersKeys parse?) :
    ((mergeInto set sources).get? name variant).isSome ↔ (set.get? name variant).isSome ∨
      ∃ source ∈ sources, ∃ part, source.Defines name variant part := by
  induction sources generalizing set with
  | nil => simp [mergeInto]
  | cons source sources ih =>
      rw [get?_mergeInto_cons, ih, get?_merge source.isDistinct_themes, Option.isSome_or,
        Bool.or_eq_true, isSome_get?_iff_defines hparse]
      simp only [List.mem_cons, exists_eq_or_imp]
      tauto

/--
When sources are merged on top of the built-in themes, a name and a variant have the whole theme of
the last source with a part for them, or else the built-in theme if it has the name. The names of
all themes are listed in strict order, and they are those of the built-in theme and of all parts.
That is so for any parser that gives tables in key order.
-/
theorem mergeInto_builtin_last_wins (hparse : Toml.OrdersKeys parse?)
    (sources : List (Source parse?)) :
    (∀ name variant,
      (∀ before source after part, sources = before ++ source :: after →
        source.Defines name variant part →
        (∀ later ∈ after, ∀ other, ¬ later.Defines name variant other) →
        ∃ theme, (mergeInto builtin sources).get? name variant = some theme ∧
          source.themes.get? name variant = some theme ∧ theme.name = name ∧
          theme.variant = variant ∧ theme.Describes part) ∧
      ((∀ source ∈ sources, ∀ part, ¬ source.Defines name variant part) →
        (mergeInto builtin sources).get? name variant =
          if name = Theme.builtinName then some (Theme.builtinFor variant) else none)) ∧
    (mergeInto builtin sources).names.Pairwise (· < ·) ∧
    ∀ name,
      (name ∈ (mergeInto builtin sources).names ↔
        ∃ variant, ((mergeInto builtin sources).get? name variant).isSome) ∧
      (name ∈ (mergeInto builtin sources).names ↔
        name = Theme.builtinName ∨
          ∃ source ∈ sources, ∃ variant part, source.Defines name variant part) := by
  refine ⟨fun name variant => ⟨?_, ?_⟩, pairwise_names _, fun name => ⟨mem_names_iff, ?_⟩⟩
  · rintro before source after part rfl hpart hafter
    obtain ⟨theme, htheme, hdescribes⟩ := exists_get?_of_defines hparse hpart
    exact ⟨theme, get?_mergeInto_of_last hparse htheme hafter, htheme, hdescribes⟩
  · intro hnone
    rw [get?_mergeInto_of_not_defines hparse hnone, get?_builtin]
  · have hbuiltin : ∀ variant, (builtin.get? name variant).isSome ↔ name = Theme.builtinName := by
      intro variant
      rw [get?_builtin]
      split <;> simp_all
    simp only [mem_names_iff, isSome_get?_mergeInto_iff hparse, hbuiltin]
    constructor
    · rintro ⟨variant, hname | ⟨source, hsource, part, hpart⟩⟩
      · exact .inl hname
      · exact .inr ⟨source, hsource, variant, part, hpart⟩
    · rintro (hname | ⟨source, hsource, variant, part, hpart⟩)
      · exact ⟨.light, .inl hname⟩
      · exact ⟨variant, .inr ⟨source, hsource, part, hpart⟩⟩

/-- The foreground of a dark part does not stay when a later source has a dark part without one. -/
theorem mergeInto_builtin_without_foreground : ∃ first second : Source Toml.read?,
    first.text = "[A.dark]\nforeground = '#000001'".toList ∧
      second.text = "[A.dark]\nbackground = '#000002'".toList ∧
      (mergeInto builtin [first, second]).get? "A" .dark =
        some ⟨"A", .dark, .standard, .rgb 0 0 2, []⟩ := by
  have hsource : ∀ text, (ofText? text).toOption.isSome →
      ∃ source : Source Toml.read?, source.text = text := by
    intro text hsome
    cases hread : ofText? text with
    | error fault => simp [hread, Except.toOption] at hsome
    | ok themes => exact ⟨⟨text, themes, hread⟩, rfl⟩
  obtain ⟨first, hfirst⟩ := hsource "[A.dark]\nforeground = '#000001'".toList (by decide +kernel)
  obtain ⟨second, hsecond⟩ := hsource "[A.dark]\nbackground = '#000002'".toList (by decide +kernel)
  have hget : second.themes.get? "A" .dark = some ⟨"A", .dark, .standard, .rgb 0 0 2, []⟩ := by
    have hread : (ofText? "[A.dark]\nbackground = '#000002'".toList).toOption.bind
        (·.get? "A" .dark) = some ⟨"A", .dark, .standard, .rgb 0 0 2, []⟩ := by decide +kernel
    rw [← hsecond, ofText?, second.accepted] at hread
    exact hread
  obtain ⟨part, hpart⟩ := (isSome_get?_iff_defines Toml.ordersKeys_read?).1
    (by rw [hget, Option.isSome_some])
  obtain ⟨theme, hmerged, htheme, -⟩ := ((mergeInto_builtin_last_wins Toml.ordersKeys_read?
    [first, second]).1 "A" .dark).1 [first] second [] part rfl hpart (by simp)
  exact ⟨first, second, hfirst, hsecond, hmerged.trans (htheme.symm.trans hget)⟩

end Source

end ThemeSet

end EditorCore
