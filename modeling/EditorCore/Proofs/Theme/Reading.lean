import EditorCore.Proofs.Toml.Tables
import EditorCore.Theme.Source

/-!
# What a theme file says

A theme file is accepted exactly when it is a well-formed table of themes, and then there is a
theme for every part of the table and no other. What a part leaves out is the standard color, and
of several keys that name one category the last one counts: styles are read in the order of their
keys, so the color of a key further back covers the ones in front of it.
-/

namespace EditorCore

variable {name key : String} {value : Toml.Value} {table part styles variants : Toml.Table}
  {category : Category} {variant : Variant} {color : Color} {colors : List (Category × Color)}
  {theme : Theme} {set : ThemeSet}

/-- A step that may fail is followed by the next one when it did not. -/
theorem bind_eq_ok_iff {α β : Type} {first : Except Fault α} {next : α → Except Fault β} {b : β} :
    first >>= next = .ok b ↔ ∃ a, first = .ok a ∧ next a = .ok b := by
  cases first with
  | error fault => simp [Bind.bind, Except.bind]
  | ok a => simp [Bind.bind, Except.bind]

/-! ### Names -/

/-- A key names a category: blanks around it and the case of its letters do not count. -/
def Category.IsNamed (key : String) (category : Category) : Prop :=
  (Text.trim key.toList).map Char.toUpper = category.name.toList

theorem Category.name_injective : ∀ first ∈ all, ∀ second ∈ all,
    first.name = second.name → first = second := by
  decide +kernel

theorem Category.ofName?_eq_some_iff : ofName? key = some category ↔ category.IsNamed key := by
  have hname : ∀ other : Category, other.IsNamed key ↔
      other.name = String.ofList ((Text.trim key.toList).map Char.toUpper) := by
    intro other
    rw [IsNamed, ← String.toList_inj, String.toList_ofList]
    exact eq_comm
  rw [hname, ofName?]
  constructor
  · intro h
    simpa using List.find?_some h
  · intro h
    cases hfind : all.find? (·.name = String.ofList ((Text.trim key.toList).map Char.toUpper)) with
    | none =>
        have := List.find?_eq_none.1 hfind category (mem_all category)
        simp [h] at this
    | some other =>
        have hother : other.name = category.name := by
          rw [h]
          simpa using List.find?_some hfind
        rw [name_injective _ (mem_all _) _ (mem_all _) hother]

theorem Category.ofName?_eq_none_iff : ofName? key = none ↔ ∀ category, ¬ IsNamed key category := by
  simp only [← ofName?_eq_some_iff, Option.eq_none_iff_forall_ne_some, ne_eq]

theorem Category.IsNamed.unique {other : Category} (h : category.IsNamed key)
    (hother : other.IsNamed key) : category = other := by
  rw [← ofName?_eq_some_iff] at h hother
  exact Option.some.inj (h.symm.trans hother)

theorem Variant.ofName?_eq_some_iff : ofName? key = some variant ↔ key = variant.name := by
  rw [ofName?]
  split_ifs with hlight hdark
  all_goals
    cases variant <;> simp_all [name]

theorem Variant.name_injective {other : Variant} (h : variant.name = other.name) :
    variant = other := by
  rw [← ofName?_eq_some_iff, ofName?_eq_some_iff.2 rfl] at h
  exact Option.some.inj h

namespace Theme

/-! ### Colors -/

/-- A value is the text of a color. -/
def IsColor (value : Toml.Value) (color : Color) : Prop :=
  ∃ text, value = .string text ∧ Color.ofHex? text.toList = some color

/-- The color of a key: the one that stands there, or the standard one if nothing does. -/
def HasColor (part : Toml.Table) (key : String) (color : Color) : Prop :=
  (∃ value, (key, value) ∈ part ∧ IsColor value color) ∨
    (∀ value, (key, value) ∉ part) ∧ color = .standard

theorem colorOf_eq_ok_iff : colorOf name key value = .ok color ↔ IsColor value color := by
  cases value with
  | string text =>
      rw [colorOf]
      split
      · next given hgiven =>
          simp only [Toml.Value.text?, Option.bind_some] at hgiven
          simp [IsColor, hgiven]
      · next hgiven =>
          simp only [Toml.Value.text?, Option.bind_some] at hgiven
          simp [IsColor, hgiven]
  | _ => simp [colorOf, Toml.Value.text?, IsColor]

theorem colorAt_eq_ok_iff (h : part.Pairwise (·.1 < ·.1)) :
    colorAt name key part = .ok color ↔ HasColor part key color := by
  rw [colorAt]
  split
  · next value hvalue =>
      rw [Toml.lookup_eq_some_iff_mem h] at hvalue
      rw [colorOf_eq_ok_iff]
      constructor
      · exact fun hcolor => .inl ⟨value, hvalue, hcolor⟩
      · rintro (⟨other, hother, hcolor⟩ | ⟨hmissing, -⟩)
        · rwa [Toml.eq_of_mem_of_mem h hvalue hother]
        · exact absurd hvalue (hmissing value)
  · next hmissing =>
      rw [Toml.lookup_eq_none_iff_not_mem] at hmissing
      simp [HasColor, hmissing, eq_comm]

/-- A key has a color, unless something else stands there. -/
theorem exists_hasColor_iff (h : part.Pairwise (·.1 < ·.1)) :
    (∃ color, HasColor part key color) ↔
      ∀ value, (key, value) ∈ part → ∃ color, IsColor value color := by
  constructor
  · rintro ⟨color, ⟨value, hvalue, hcolor⟩ | ⟨hmissing, -⟩⟩ other hother
    · exact ⟨color, Toml.eq_of_mem_of_mem h hvalue hother ▸ hcolor⟩
    · exact absurd hother (hmissing other)
  · intro hall
    by_cases hmissing : ∀ value, (key, value) ∉ part
    · exact ⟨.standard, .inr ⟨hmissing, rfl⟩⟩
    · push Not at hmissing
      obtain ⟨value, hvalue⟩ := hmissing
      obtain ⟨color, hcolor⟩ := hall value hvalue
      exact ⟨color, .inl ⟨value, hvalue, hcolor⟩⟩

/-! ### Styles -/

/-- Every key names a category, and a color stands under it. -/
def AreStyles (styles : Toml.Table) : Prop :=
  ∀ entry ∈ styles,
    (∃ category, Category.IsNamed entry.1 category) ∧ ∃ color, IsColor entry.2 color

/-- No key names a category. -/
def LeaveOut (styles : Toml.Table) (category : Category) : Prop :=
  ∀ entry ∈ styles, ¬ category.IsNamed entry.1

/-- The color of the last key that names a category. -/
def HasLast (styles : Toml.Table) (category : Category) (color : Color) : Prop :=
  ∃ entry ∈ styles, category.IsNamed entry.1 ∧ IsColor entry.2 color ∧
    ∀ other ∈ styles, category.IsNamed other.1 → other.1 ≤ entry.1

theorem hasLast_cons_iff {entry : String × Toml.Value}
    (h : (entry :: styles).Pairwise (·.1 < ·.1)) :
    HasLast (entry :: styles) category color ↔
      HasLast styles category color ∨
        LeaveOut styles category ∧ category.IsNamed entry.1 ∧ IsColor entry.2 color := by
  obtain ⟨hfirst, -⟩ := List.pairwise_cons.1 h
  constructor
  · rintro ⟨last, hlast, hnamed, hcolor, hbound⟩
    rcases List.mem_cons.1 hlast with rfl | hmem
    · refine .inr ⟨?_, hnamed, hcolor⟩
      intro other hother hnamed
      exact String.not_le.2 (hfirst other hother)
        (hbound other (List.mem_cons_of_mem _ hother) hnamed)
    · exact .inl ⟨last, hmem, hnamed, hcolor, fun other hother =>
        hbound other (List.mem_cons_of_mem _ hother)⟩
  · rintro (⟨last, hmem, hnamed, hcolor, hbound⟩ | ⟨hout, hnamed, hcolor⟩)
    · refine ⟨last, List.mem_cons_of_mem _ hmem, hnamed, hcolor, ?_⟩
      refine List.forall_mem_cons.2 ⟨?_, hbound⟩
      exact fun _ => String.not_lt.1 (String.lt_asymm (hfirst last hmem))
    · refine ⟨entry, List.mem_cons_self, hnamed, hcolor, ?_⟩
      refine List.forall_mem_cons.2 ⟨fun _ => String.le_refl _, ?_⟩
      exact fun other hother hother' => absurd hother' (hout other hother)

theorem exists_colorsOf_iff :
    (∃ read, colorsOf name colors styles = .ok read) ↔ AreStyles styles := by
  induction styles generalizing colors with
  | nil => simp [colorsOf, AreStyles]
  | cons entry styles ih =>
      obtain ⟨key, value⟩ := entry
      rw [AreStyles, List.forall_mem_cons, ← AreStyles]
      cases hname : Category.ofName? key with
      | none =>
          have hunknown := Category.ofName?_eq_none_iff.1 hname
          simp [colorsOf, hname, hunknown]
      | some category =>
          have hnamed := Category.ofName?_eq_some_iff.1 hname
          simp only [colorsOf, hname, bind_eq_ok_iff, colorOf_eq_ok_iff]
          constructor
          · rintro ⟨read, color, hcolor, hread⟩
            exact ⟨⟨⟨category, hnamed⟩, color, hcolor⟩, ih.1 ⟨read, hread⟩⟩
          · rintro ⟨⟨-, color, hcolor⟩, hstyles⟩
            obtain ⟨read, hread⟩ := ih.2 hstyles
            exact ⟨read, color, hcolor, hread⟩

/--
What has been read of the styles and what there was before: a category has the color of its last
key, or its color of before when no key names it.
-/
theorem lookup_colorsOf {read : List (Category × Color)} (hrising : styles.Pairwise (·.1 < ·.1))
    (h : colorsOf name colors styles = .ok read) :
    read.lookup category = some color ↔ HasLast styles category color ∨
      LeaveOut styles category ∧ colors.lookup category = some color := by
  -- the colors read so far grow in front, so the induction is over all of them
  induction styles generalizing colors with
  | nil =>
      obtain rfl := Except.ok.inj h
      simp [HasLast, LeaveOut]
  | cons entry styles ih =>
      obtain ⟨key, value⟩ := entry
      rw [hasLast_cons_iff hrising]
      have hrest := (List.pairwise_cons.1 hrising).2
      cases hname : Category.ofName? key with
      | none => simp [colorsOf, hname] at h
      | some named =>
          have hnamed := Category.ofName?_eq_some_iff.1 hname
          simp only [colorsOf, hname, bind_eq_ok_iff, colorOf_eq_ok_iff] at h
          obtain ⟨first, hfirst, hread⟩ := h
          rw [ih hrest hread, List.lookup_cons, LeaveOut, LeaveOut, List.forall_mem_cons]
          by_cases hsame : category = named
          · subst hsame
            have hcolor : IsColor value color ↔ first = color := by
              constructor
              · rintro ⟨text, rfl, htext⟩
                obtain ⟨other, hother, hfirst⟩ := hfirst
                cases hother
                exact Option.some.inj (hfirst.symm.trans htext)
              · rintro rfl
                exact hfirst
            simp [hnamed, hcolor]
          · have hother : ¬ category.IsNamed key := fun h => hsame (h.unique hnamed)
            have hne : (category == named) = false := by simpa using hsame
            simp [hother, hne]

/-- Small letters come behind capital ones, so the color of the key in small letters counts. -/
example :
    (colorsOf "A" [] [("STRING", .string "#000001"), ("string", .string "#000002")]).toOption.map
      (·.lookup .string) = some (some (.rgb 0 0 2)) := by
  decide +kernel

/-! ### Parts -/

/-- A part of a theme as it may be written: colors where there can be colors. -/
structure IsPart (part : Toml.Table) : Prop where
  foreground : ∀ value, ("foreground", value) ∈ part → ∃ color, IsColor value color
  background : ∀ value, ("background", value) ∈ part → ∃ color, IsColor value color
  styles : ∀ value, ("styles", value) ∈ part → ∃ styles, value = .table styles ∧ AreStyles styles

/-- A theme has the colors of a part, and no others. -/
structure Describes (part : Toml.Table) (theme : Theme) : Prop where
  foreground : HasColor part "foreground" theme.foreground
  background : HasColor part "background" theme.background
  color? : ∀ category color, theme.color? category = some color ↔
    ∃ styles, ("styles", .table styles) ∈ part ∧ HasLast styles category color

theorem exists_stylesAt_iff (h : part.Pairwise (·.1 < ·.1)) :
    (∃ read, stylesAt name part = .ok read) ↔
      ∀ value, ("styles", value) ∈ part →
        ∃ styles, value = .table styles ∧ AreStyles styles := by
  rw [stylesAt]
  split
  · next hmissing =>
      rw [Toml.lookup_eq_none_iff_not_mem] at hmissing
      simp [hmissing]
  · next value hvalue =>
      rw [Toml.lookup_eq_some_iff_mem h] at hvalue
      have hall : (∀ other, ("styles", other) ∈ part →
            ∃ styles, other = .table styles ∧ AreStyles styles) ↔
          ∃ styles, value = .table styles ∧ AreStyles styles := by
        constructor
        · exact fun hall => hall value hvalue
        · exact fun hstyles other hother => Toml.eq_of_mem_of_mem h hvalue hother ▸ hstyles
      rw [hall]
      cases value with
      | table styles => simp [Toml.Value.entries?, exists_colorsOf_iff]
      | _ => simp [Toml.Value.entries?]

theorem lookup_stylesAt {read : List (Category × Color)} (hpart : (Toml.Value.table part).IsOrdered)
    (h : stylesAt name part = .ok read) :
    read.lookup category = some color ↔
      ∃ styles, ("styles", .table styles) ∈ part ∧ HasLast styles category color := by
  have hrising := hpart.rising
  rw [stylesAt] at h
  split at h
  · next hmissing =>
      rw [Toml.lookup_eq_none_iff_not_mem] at hmissing
      obtain rfl := Except.ok.inj h
      simp [hmissing]
  · next value hvalue =>
      rw [Toml.lookup_eq_some_iff_mem hrising] at hvalue
      split at h
      · simp at h
      · next styles hstyles =>
          have htable : value = .table styles := by
            cases value with
            | table => exact congrArg _ (Option.some.inj hstyles)
            | _ => simp [Toml.Value.entries?] at hstyles
          subst htable
          rw [lookup_colorsOf (hpart.of_mem hvalue).rising h]
          constructor
          · rintro (hlast | ⟨-, hnone⟩)
            · exact ⟨styles, hvalue, hlast⟩
            · simp at hnone
          · rintro ⟨other, hother, hlast⟩
            cases Toml.eq_of_mem_of_mem hrising hvalue hother
            exact .inl hlast

theorem ofPart_eq_ok_iff : ofPart name variant part = .ok theme ↔
    theme.name = name ∧ theme.variant = variant ∧
      colorAt name "foreground" part = .ok theme.foreground ∧
      colorAt name "background" part = .ok theme.background ∧
      stylesAt name part = .ok theme.colors := by
  simp only [ofPart, bind_eq_ok_iff]
  constructor
  · rintro ⟨foreground, hforeground, background, hbackground, colors, hcolors, htheme⟩
    obtain rfl := Except.ok.inj htheme
    exact ⟨rfl, rfl, hforeground, hbackground, hcolors⟩
  · rintro ⟨rfl, rfl, hforeground, hbackground, hcolors⟩
    exact ⟨_, hforeground, _, hbackground, _, hcolors, rfl⟩

/-- A part is read when it is well formed. -/
theorem exists_ofPart_iff (h : part.Pairwise (·.1 < ·.1)) :
    (∃ theme, ofPart name variant part = .ok theme) ↔ IsPart part := by
  constructor
  · rintro ⟨theme, htheme⟩
    obtain ⟨-, -, hforeground, hbackground, hcolors⟩ := ofPart_eq_ok_iff.1 htheme
    exact ⟨(exists_hasColor_iff h).1 ⟨_, (colorAt_eq_ok_iff h).1 hforeground⟩,
      (exists_hasColor_iff h).1 ⟨_, (colorAt_eq_ok_iff h).1 hbackground⟩,
      (exists_stylesAt_iff h).1 ⟨_, hcolors⟩⟩
  · rintro ⟨hforeground, hbackground, hstyles⟩
    obtain ⟨foreground, hforeground⟩ := (exists_hasColor_iff h).2 hforeground
    obtain ⟨background, hbackground⟩ := (exists_hasColor_iff h).2 hbackground
    obtain ⟨colors, hcolors⟩ := (exists_stylesAt_iff h).2 hstyles
    exact ⟨⟨name, variant, foreground, background, colors⟩, ofPart_eq_ok_iff.2 ⟨rfl, rfl,
      (colorAt_eq_ok_iff h).2 hforeground, (colorAt_eq_ok_iff h).2 hbackground, hcolors⟩⟩

/-- The theme that is read is the one described. -/
theorem describes_of_ofPart (hpart : (Toml.Value.table part).IsOrdered)
    (h : ofPart name variant part = .ok theme) : theme.Describes part := by
  obtain ⟨-, -, hforeground, hbackground, hcolors⟩ := ofPart_eq_ok_iff.1 h
  exact ⟨(colorAt_eq_ok_iff hpart.rising).1 hforeground,
    (colorAt_eq_ok_iff hpart.rising).1 hbackground,
    fun category color => lookup_stylesAt hpart hcolors⟩

end Theme

namespace ThemeSet

/-! ### Sets of themes -/

theorem get?_insert (set : ThemeSet) (theme : Theme) (name : String) (variant : Variant) :
    (set.insert theme).get? name variant =
      if theme.name = name ∧ theme.variant = variant then some theme
      else set.get? name variant := by
  rw [get?, get?, insert, List.find?_cons]
  split
  · next hfor =>
      rw [if_pos (by simpa [isFor] using hfor)]
  · next hnot =>
      have hother : ¬ (theme.name = name ∧ theme.variant = variant) := by
        simpa [isFor] using hnot
      rw [if_neg hother, List.find?_filter]
      refine congrArg (List.find? · set.themes) (funext fun other => ?_)
      simp only [isFor]
      grind

theorem variantOf_eq_ok_iff : variantOf name key value = .ok theme ↔
    ∃ variant part, key = variant.name ∧ value = .table part ∧
      Theme.ofPart name variant part = .ok theme := by
  simp only [← Variant.ofName?_eq_some_iff]
  rw [variantOf]
  cases Variant.ofName? key with
  | none => simp
  | some variant => cases value <;> simp [Toml.Value.entries?]

theorem exists_addVariants_iff :
    (∃ read, addVariants name set variants = .ok read) ↔
      ∀ entry ∈ variants, ∃ theme, variantOf name entry.1 entry.2 = .ok theme := by
  induction variants generalizing set with
  | nil => simp [addVariants]
  | cons entry variants ih =>
      simp only [addVariants, bind_eq_ok_iff, List.forall_mem_cons]
      constructor
      · rintro ⟨read, theme, htheme, hread⟩
        exact ⟨⟨theme, htheme⟩, ih.1 ⟨read, hread⟩⟩
      · rintro ⟨⟨theme, htheme⟩, hvariants⟩
        obtain ⟨read, hread⟩ := ih.2 hvariants
        exact ⟨read, theme, htheme, hread⟩

/-- Only the variants of a table are added to a set. -/
theorem get?_addVariants_of_not_mem {read : ThemeSet} {other : String}
    (h : addVariants name set variants = .ok read)
    (hnot : other = name → ∀ value, (variant.name, value) ∉ variants) :
    read.get? other variant = set.get? other variant := by
  induction variants generalizing set with
  | nil =>
      obtain rfl := Except.ok.inj h
      rfl
  | cons entry variants ih =>
      obtain ⟨theme, htheme, hrest⟩ := bind_eq_ok_iff.1 h
      obtain ⟨added, part, hkey, hpart, htheme⟩ := variantOf_eq_ok_iff.1 htheme
      obtain ⟨rfl, rfl, -⟩ := Theme.ofPart_eq_ok_iff.1 htheme
      rw [ih hrest fun hname value hmem => hnot hname value (List.mem_cons_of_mem _ hmem),
        get?_insert, if_neg]
      rintro ⟨rfl, rfl⟩
      exact hnot rfl entry.2 (hkey ▸ List.mem_cons_self)

/-- Every variant of a table is added. -/
theorem get?_addVariants_of_mem {read : ThemeSet} (hrising : variants.Pairwise (·.1 < ·.1))
    (h : addVariants name set variants = .ok read) (hmem : (variant.name, value) ∈ variants) :
    ∃ part theme, value = .table part ∧ Theme.ofPart name variant part = .ok theme ∧
      read.get? name variant = some theme := by
  induction variants generalizing set with
  | nil => simp at hmem
  | cons entry variants ih =>
      obtain ⟨hfirst, hothers⟩ := List.pairwise_cons.1 hrising
      obtain ⟨theme, htheme, hrest⟩ := bind_eq_ok_iff.1 h
      rcases List.mem_cons.1 hmem with rfl | hmem
      · obtain ⟨added, part, hkey, hpart, htheme⟩ := variantOf_eq_ok_iff.1 htheme
        obtain rfl := Variant.name_injective hkey
        obtain ⟨hname, hvariant, -⟩ := Theme.ofPart_eq_ok_iff.1 htheme
        refine ⟨part, theme, hpart, htheme, ?_⟩
        rw [get?_addVariants_of_not_mem hrest, get?_insert, if_pos ⟨hname, hvariant⟩]
        intro _ other hother
        exact String.lt_irrefl _ (hfirst (variant.name, other) hother)
      · exact ih hothers hrest hmem

/-- The theme of an entry in front of a table is read first. -/
theorem addThemes_cons_eq_ok_iff {read : ThemeSet} :
    addThemes set ((name, value) :: table) = .ok read ↔
      ∃ variants added, value = .table variants ∧ addVariants name set variants = .ok added ∧
        addThemes added table = .ok read := by
  cases value with
  | table variants => simp [addThemes, Toml.Value.entries?, bind_eq_ok_iff]
  | _ => simp [addThemes, Toml.Value.entries?]

theorem exists_addThemes_iff :
    (∃ read, addThemes set table = .ok read) ↔
      ∀ entry ∈ table, ∃ variants, entry.2 = .table variants ∧
        ∀ part ∈ variants, ∃ theme, variantOf entry.1 part.1 part.2 = .ok theme := by
  induction table generalizing set with
  | nil => simp [addThemes]
  | cons entry table ih =>
      obtain ⟨name, value⟩ := entry
      simp only [addThemes_cons_eq_ok_iff]
      rw [List.forall_mem_cons]
      constructor
      · rintro ⟨read, variants, added, rfl, hadded, hread⟩
        exact ⟨⟨variants, rfl, exists_addVariants_iff.1 ⟨added, hadded⟩⟩, ih.1 ⟨read, hread⟩⟩
      · rintro ⟨⟨variants, rfl, hvariants⟩, htable⟩
        obtain ⟨added, hadded⟩ : ∃ added, addVariants name set variants = .ok added :=
          exists_addVariants_iff.2 hvariants
        obtain ⟨read, hread⟩ := ih.2 htable
        exact ⟨read, variants, added, rfl, hadded, hread⟩

/-- Only the themes of a table are added to a set. -/
theorem get?_addThemes_of_not_mem {read : ThemeSet} (h : addThemes set table = .ok read)
    (hnot : ∀ variants value, (name, .table variants) ∈ table → (variant.name, value) ∉ variants) :
    read.get? name variant = set.get? name variant := by
  induction table generalizing set with
  | nil =>
      obtain rfl := Except.ok.inj h
      rfl
  | cons entry table ih =>
      obtain ⟨first, value⟩ := entry
      obtain ⟨variants, added, rfl, hadded, hrest⟩ := addThemes_cons_eq_ok_iff.1 h
      rw [ih hrest fun variants value hmem => hnot variants value (List.mem_cons_of_mem _ hmem)]
      refine get?_addVariants_of_not_mem hadded ?_
      rintro rfl value
      exact hnot variants value List.mem_cons_self

/-- Every theme of a table is added. -/
theorem get?_addThemes_of_mem {read : ThemeSet} (htable : (Toml.Value.table table).IsOrdered)
    (h : addThemes set table = .ok read) (hmem : (name, .table variants) ∈ table)
    (hvalue : (variant.name, value) ∈ variants) :
    ∃ part theme, value = .table part ∧ Theme.ofPart name variant part = .ok theme ∧
      read.get? name variant = some theme := by
  induction table generalizing set with
  | nil => simp at hmem
  | cons entry table ih =>
      obtain ⟨hfirst, hothers⟩ := List.pairwise_cons.1 htable.rising
      obtain ⟨first, given⟩ := entry
      obtain ⟨firstVariants, added, rfl, hadded, hrest⟩ := addThemes_cons_eq_ok_iff.1 h
      rcases List.mem_cons.1 hmem with heq | hmem
      · cases heq
        obtain ⟨part, theme, hpart, htheme, hget⟩ :=
          get?_addVariants_of_mem (htable.of_mem List.mem_cons_self).rising hadded hvalue
        refine ⟨part, theme, hpart, htheme, ?_⟩
        rw [get?_addThemes_of_not_mem hrest, hget]
        intro variants value hother
        exact absurd (hfirst _ hother) (String.lt_irrefl _)
      · exact ih htable.tail hrest hmem

/-! ### Files -/

/-- A table of themes as it may be written: light and dark parts of named themes. -/
def IsThemeFile (table : Toml.Table) : Prop :=
  ∀ theme ∈ table, ∃ variants, theme.2 = .table variants ∧
    ∀ entry ∈ variants, (entry.1 = "light" ∨ entry.1 = "dark") ∧
      ∃ part, entry.2 = .table part ∧ Theme.IsPart part

/-- A table has a part for a name and a variant. -/
def HasPart (table : Toml.Table) (name : String) (variant : Variant) (part : Toml.Table) : Prop :=
  ∃ variants, (name, .table variants) ∈ table ∧ (variant.name, .table part) ∈ variants

theorem exists_variantOf_iff (h : value.IsOrdered) :
    (∃ theme, variantOf name key value = .ok theme) ↔
      (key = "light" ∨ key = "dark") ∧ ∃ part, value = .table part ∧ Theme.IsPart part := by
  have hkey : (∃ variant : Variant, key = variant.name) ↔ key = "light" ∨ key = "dark" := by
    constructor
    · rintro ⟨variant | variant, rfl⟩
      · exact .inl rfl
      · exact .inr rfl
    · rintro (rfl | rfl)
      · exact ⟨.light, rfl⟩
      · exact ⟨.dark, rfl⟩
  simp only [variantOf_eq_ok_iff]
  rw [← hkey]
  constructor
  · rintro ⟨theme, variant, part, hvariant, rfl, htheme⟩
    exact ⟨⟨variant, hvariant⟩, part, rfl, (Theme.exists_ofPart_iff h.rising).1 ⟨theme, htheme⟩⟩
  · rintro ⟨⟨variant, hvariant⟩, part, rfl, hpart⟩
    obtain ⟨theme, htheme⟩ := (Theme.exists_ofPart_iff h.rising).2 hpart
    exact ⟨theme, variant, part, hvariant, rfl, htheme⟩

/-- A table in key order is accepted when it is a well-formed table of themes. -/
theorem exists_addThemes_iff_isThemeFile (htable : (Toml.Value.table table).IsOrdered) :
    (∃ read, addThemes set table = .ok read) ↔ IsThemeFile table := by
  rw [exists_addThemes_iff, IsThemeFile]
  refine forall₂_congr fun entry hentry => exists_congr fun variants => and_congr_right ?_
  intro hvariants
  have hordered := htable.of_mem hentry
  rw [hvariants] at hordered
  exact forall₂_congr fun part hpart => exists_variantOf_iff (hordered.of_mem hpart)

/-- There is a theme for a part of a table, and it is the one described. -/
theorem exists_get?_of_hasPart {read : ThemeSet} (htable : (Toml.Value.table table).IsOrdered)
    (h : addThemes set table = .ok read) (hpart : HasPart table name variant part) :
    ∃ theme, read.get? name variant = some theme ∧ theme.name = name ∧ theme.variant = variant ∧
      theme.Describes part := by
  obtain ⟨variants, hvariants, hpart⟩ := hpart
  obtain ⟨given, theme, heq, htheme, hget⟩ := get?_addThemes_of_mem htable h hvariants hpart
  cases heq
  have hordered := (htable.of_mem hvariants).of_mem hpart
  obtain ⟨hname, hvariant, -⟩ := Theme.ofPart_eq_ok_iff.1 htheme
  exact ⟨theme, hget, hname, hvariant, Theme.describes_of_ofPart hordered htheme⟩

/-- There is no other theme than those of the table. -/
theorem get?_eq_none_of_not_hasPart {read : ThemeSet}
    (htable : (Toml.Value.table table).IsOrdered) (h : addThemes .empty table = .ok read)
    (hnot : ∀ part, ¬ HasPart table name variant part) : read.get? name variant = none := by
  rw [get?_addThemes_of_not_mem h]
  · rfl
  · intro variants value hvariants hvalue
    obtain ⟨part, -, rfl, -⟩ := get?_addThemes_of_mem htable h hvariants hvalue
    exact hnot part ⟨variants, hvariants, hvalue⟩

/--
A text is accepted exactly when it amounts to a well-formed table of themes. Then every part of
the table is described by the theme of its name and variant, and there are no other themes. That
is so for any parser that gives tables in key order.
-/
theorem themes_of_text {parse? : List Char → Option Toml.Table} (hparse : Toml.OrdersKeys parse?)
    (text : List Char) :
    ((∃ read, parsedBy parse? text = .ok read) ↔
      ∃ table, parse? text = some table ∧ IsThemeFile table) ∧
    ∀ read, parsedBy parse? text = .ok read → ∃ table, parse? text = some table ∧
      (Toml.Value.table table).IsOrdered ∧ ∀ name variant,
        (∀ part, HasPart table name variant part → ∃ theme, read.get? name variant = some theme ∧
          theme.name = name ∧ theme.variant = variant ∧ theme.Describes part) ∧
        ((∀ part, ¬ HasPart table name variant part) → read.get? name variant = none) := by
  cases htext : parse? text with
  | none => simp [parsedBy, htext]
  | some table =>
      have htable := hparse text table htext
      simp only [parsedBy, htext, Option.some.injEq, exists_eq_left']
      refine ⟨exists_addThemes_iff_isThemeFile htable, ?_⟩
      intro read hread
      refine ⟨htable, fun name variant => ⟨?_, ?_⟩⟩
      · exact fun part hpart => exists_get?_of_hasPart htable hread hpart
      · exact get?_eq_none_of_not_hasPart htable hread

/-- A text with one part is accepted, and the theme of that part is the one it describes. -/
theorem themes_of_text_dark : ∃ text read table part theme,
    text = "[A.dark]\nforeground = '#000001'".toList ∧ ofText? text = .ok read ∧
    Toml.read? text = some table ∧ IsThemeFile table ∧ HasPart table "A" .dark part ∧
    theme.Describes part ∧ read.get? "A" .dark = some theme ∧ theme.foreground = .rgb 0 0 1 := by
  obtain ⟨text, htext⟩ : ∃ text, text = "[A.dark]\nforeground = '#000001'".toList := ⟨_, rfl⟩
  have hforeground : ((ofText? text).toOption.bind (·.get? "A" .dark)).map (·.foreground) =
      some (.rgb 0 0 1) := by
    subst htext
    decide +kernel
  obtain ⟨theme, htheme, hcolor⟩ := Option.map_eq_some_iff.1 hforeground
  obtain ⟨read, hread, hget⟩ := Option.bind_eq_some_iff.1 htheme
  have hok : ofText? text = .ok read := by
    cases hanswer : ofText? text with
    | error fault => simp [hanswer, Except.toOption] at hread
    | ok other => simpa [hanswer, Except.toOption] using hread
  obtain ⟨haccepted, hmeans⟩ := themes_of_text Toml.ordersKeys_read? text
  obtain ⟨table, htable, hfile⟩ := haccepted.1 ⟨read, hok⟩
  obtain ⟨other, hother, -, hparts⟩ := hmeans read hok
  obtain rfl : table = other := Option.some.inj (htable.symm.trans hother)
  obtain ⟨part, hpart⟩ : ∃ part, HasPart table "A" .dark part := by
    by_contra hnot
    rw [(hparts "A" .dark).2 (not_exists.1 hnot)] at hget
    simp at hget
  obtain ⟨described, hdescribed, -, -, hdescribes⟩ := (hparts "A" .dark).1 part hpart
  obtain rfl : theme = described := Option.some.inj (hget.symm.trans hdescribed)
  exact ⟨text, read, table, part, theme, htext, hok, htable, hfile, hpart, hdescribes, hget, hcolor⟩

end ThemeSet

end EditorCore
