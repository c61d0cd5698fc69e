import EditorCore.Proofs.Language.LetterCase
import EditorCore.Proofs.Language.Shown

/-!
# Numbers of styles

A host keeps the number of a style and asks the registry of the language for the category. Every
category that highlighting assigns has a number there, and no two of them share one, whatever the
tokens are and wherever the range starts. For rule files this does not depend on how words are
made small before the tables are asked, and for programs not on the grammar.
-/

namespace EditorCore

variable {token : Token} {tokens following : List Token} {context : Context} {category : Category}

/-! ### Registries -/

namespace Registry

variable {registry : Registry} {emitted : List Category} {id : Nat}

/-- The categories that have a number. -/
def categories (registry : Registry) : List Category := registry.entries.map (·.1)

/-- Each of some categories has a number of one byte, by which it is found again. -/
structure Numbers (registry : Registry) (emitted : List Category) : Prop where
  found : ∀ category ∈ emitted, ∃ id < 256, registry.id? category = some id ∧
    registry.category? id = some category ∧ registry.description id = category.name
  distinct : ∀ first ∈ emitted, ∀ second ∈ emitted,
    registry.id? first = registry.id? second → first = second

theorem category?_of_id? (h : registry.id? category = some id) :
    registry.category? id = some category := by
  obtain ⟨hlt, hfound, -⟩ := List.findIdx?_eq_some_iff_getElem.1 h
  rw [category?, List.getElem?_eq_getElem hlt, Option.map_some, of_decide_eq_true hfound]

theorem exists_id?_of_mem (h : category ∈ registry.categories) :
    ∃ id < registry.entries.length, registry.id? category = some id := by
  obtain ⟨entry, hentry, hcategory⟩ := List.mem_map.1 h
  cases hid : registry.id? category with
  | none =>
      have := List.findIdx?_eq_none_iff.1 hid entry hentry
      simp [hcategory] at this
  | some id => exact ⟨id, (List.findIdx?_eq_some_iff_getElem.1 hid).1, rfl⟩

/-- A registry numbers what it lists, if a byte can count its entries. -/
theorem numbers_of_subset (hbyte : registry.entries.length ≤ 256)
    (hlisted : ∀ category ∈ emitted, category ∈ registry.categories) :
    registry.Numbers emitted where
  found category hcategory := by
    obtain ⟨id, hlt, hid⟩ := exists_id?_of_mem (hlisted category hcategory)
    have hback := category?_of_id? hid
    exact ⟨id, by omega, hid, hback, by simp [description, hback]⟩
  distinct first hfirst second _ hsame := by
    obtain ⟨id, -, hid⟩ := exists_id?_of_mem (hlisted first hfirst)
    have hback := category?_of_id? (hsame ▸ hid)
    rw [category?_of_id? hid] at hback
    exact Option.some.inj hback

end Registry

/-! ### Plain text -/

theorem Plain.mem_categories_of_mem_styles (h : category ∈ Plain.styles tokens) :
    category ∈ Plain.registry.categories := by
  obtain ⟨token, -, rfl⟩ := List.mem_map.1 h
  simp only [Plain.styleOf]
  split <;> decide

/-! ### Rule files -/

namespace Rules

variable {previous : Option Token} {inComment : Bool}

theorem styleOfWord_mem_categories (word : Token) (previous : Option Token) (endsLine : Bool) :
    styleOfWord word previous endsLine ∈ registry.categories := by
  have htables : ∀ category ∈
      [Category.ruleSection, .comparison, .directive, .architecture, .keyword],
      category ∈ registry.categories := by decide
  have hplaces : ∀ category ∈ [Category.ruleName, .variable, .plain],
      category ∈ registry.categories := by decide
  rw [styleOfWord]
  split
  · next hclass => exact htables _ (classify?_mem hclass)
  · split
    · decide
    · split
      · decide
      · split
        · decide
        · exact hplaces _ (styleByPlace_mem word previous endsLine)

/-- The style of each token, the words being made small in the given way. -/
def stylesBy (lower : Token → Token) (context : Context) (inComment : Bool)
    (previous : Option Token) : List Token → List Category
  | [] => []
  | token :: rest =>
    if inComment then
      .comment :: stylesBy lower context (!token.hasLineBreak) (some token) rest
    else
      let category := styleOfWord (lower token) previous (endsLine context rest)
      category :: stylesBy lower context (category = .comment) (some token) rest

theorem stylesBy_lowercase (context : Context) (inComment : Bool) (previous : Option Token)
    (tokens : List Token) : stylesBy Text.lowercase context inComment previous tokens =
      stylesFrom context inComment previous tokens := by
  induction tokens generalizing inComment previous with
  | nil => rfl
  | cons token tokens ih =>
      simp only [stylesBy, stylesFrom, ih]
      rfl

theorem mem_categories_of_mem_stylesBy (lower : Token → Token)
    (h : category ∈ stylesBy lower context inComment previous tokens) :
    category ∈ registry.categories := by
  induction tokens generalizing inComment previous with
  | nil => simp [stylesBy] at h
  | cons token tokens ih =>
      rw [stylesBy] at h
      split at h
      · rcases List.mem_cons.1 h with rfl | hrest
        · decide
        · exact ih hrest
      · rcases List.mem_cons.1 h with rfl | hrest
        · exact styleOfWord_mem_categories _ _ _
        · exact ih hrest

end Rules

/-! ### Programs -/

namespace Grammar

variable {g : Grammar} {s next : State}

/-- A name that is still to come is that of a class or a function. -/
def State.AwaitsName (s : State) : Prop :=
  ∀ category ∈ s.name, category = .className ∨ category = .functionName

/-- The categories of all programming languages are the same. -/
theorem categories_registry (g : Grammar) : g.registry.categories =
    [.plain, .keyword, .builtin, .operator, .bracket, .comment, .number, .constant, .className,
      .functionName, .string, .stringEnd] := rfl

theorem classify_mem_categories (g : Grammar) (token : Token) :
    g.classify token ∈ g.registry.categories := by
  simp only [categories_registry, classify]
  repeat' split
  all_goals decide

/-- No move assigns a category without a number or announces a name of another kind. -/
theorem Moves.mem_categories (h : g.Moves context token following s category next)
    (hname : s.AwaitsName) : category ∈ g.registry.categories ∧ next.AwaitsName := by
  have hother := g.classify_mem_categories token
  rw [categories_registry] at hother ⊢
  have hnone : ∀ s : State, s.name = none → s.AwaitsName := fun s hs category hcategory => by
    simp [hs] at hcategory
  cases h with
  | wait => exact ⟨by decide, hname⟩
  | name hs =>
      refine ⟨?_, hnone _ rfl⟩
      rcases hname _ hs with rfl | rfl <;> decide
  | escaped hs => exact ⟨by decide, hnone _ hs⟩
  | escape hs => exact ⟨by decide, hnone _ hs⟩
  | cut hs => exact ⟨by decide, hnone _ hs⟩
  | close hs => exact ⟨by decide, hnone _ hs⟩
  | body => exact ⟨by decide, hname⟩
  | comment hs => exact ⟨by decide, hnone _ hs⟩
  | declare => exact ⟨by decide, fun category hannounced => (announced?_spec hannounced).1⟩
  | lead hs => exact ⟨by decide, hnone _ hs⟩
  | opening hs => exact ⟨by decide, hnone _ hs⟩
  | other => exact ⟨hother, hname⟩

theorem mem_categories_of_mem_stylesFrom (hname : s.AwaitsName)
    (h : category ∈ g.stylesFrom context s tokens) : category ∈ g.registry.categories := by
  induction tokens generalizing s with
  | nil => simp [stylesFrom] at h
  | cons token following ih =>
      obtain ⟨hlisted, hnext⟩ := (g.moves_step context s token following).mem_categories hname
      rw [stylesFrom_cons] at h
      rcases List.mem_cons.1 h with rfl | hrest
      · exact hlisted
      · exact ih hnext hrest

theorem awaitsName_start (g : Grammar) (context : Context) (tokens : List Token) :
    (g.start context tokens).AwaitsName := by
  intro category hcategory
  obtain ⟨declaration, -, hannounced⟩ := Option.bind_eq_some_iff.1 hcategory
  exact (announced?_spec hannounced).1

end Grammar

/-! ### Lexers -/

namespace Lexer

theorem mem_categories_of_mem_styles {lexer : Lexer} (h : category ∈ lexer.styles context tokens) :
    category ∈ lexer.registry.categories := by
  cases lexer with
  | plain => exact Plain.mem_categories_of_mem_styles h
  | rules =>
      rw [styles, Rules.styles, ← Rules.stylesBy_lowercase] at h
      exact Rules.mem_categories_of_mem_stylesBy _ h
  | program g =>
      exact Grammar.mem_categories_of_mem_stylesFrom (g.awaitsName_start context tokens) h

theorem length_registry_le (lexer : Lexer) : lexer.registry.entries.length ≤ 256 := by
  cases lexer <;> simp [registry, Plain.registry, Rules.registry, Grammar.registry]

/-- The categories of all runs have numbers of their own; in rule files also those that come of
making words small in another way. -/
theorem registry_numbers_runs (lexer : Lexer) (context : Context) (tokens : List Token) :
    lexer.registry.Numbers ((lexer.runs context tokens).map (·.category)) ∧
      ∀ lower : Token → Token, Rules.registry.Numbers
        (Rules.stylesBy lower context context.inComment context.previous tokens) := by
  constructor
  · rw [map_category_runs]
    exact Registry.numbers_of_subset lexer.length_registry_le
      fun _ => mem_categories_of_mem_styles
  · intro lower
    exact Registry.numbers_of_subset Lexer.rules.length_registry_le
      fun _ => Rules.mem_categories_of_mem_stylesBy lower

example : (Lexer.program Python.grammar).registry.id? .functionName = some 9 := by decide

end Lexer

end EditorCore
