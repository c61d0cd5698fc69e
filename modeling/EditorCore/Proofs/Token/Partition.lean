import EditorCore.Token.Basic
import Mathlib.Data.List.TakeWhile

/-!
# Tokens partition a text

The tokens of a text are its characters in order, none of them empty, and cutting a
text is a local affair: whether a token stands at the front of a text depends only on
the token and on what follows it, and a shorter rest changes nothing. A text can
therefore be cut at any of its boundaries first and each side tokenized by itself.
-/

namespace EditorCore

variable {t : Tokenizer} {text before after rest back token : List Char}

theorem runOf_eq_some_iff {least : Nat} {belongs : Char → Bool} :
    runOf least belongs text = some token ↔
      least ≤ token.length ∧ text.takeWhile belongs = token := by
  simp only [runOf]
  split
  · next h =>
      rw [Option.some.injEq]
      exact ⟨fun heq => ⟨heq ▸ h, heq⟩, fun heq => heq.2⟩
  · next h =>
      simp only [reduceCtorEq, false_iff, not_and]
      rintro hlength rfl
      exact h hlength

theorem runOf_eq_none_iff {least : Nat} {belongs : Char → Bool} :
    runOf least belongs text = none ↔ (text.takeWhile belongs).length < least := by
  simp [runOf]

theorem length_takeWhile_le_append (belongs : Char → Bool) (text back : List Char) :
    (text.takeWhile belongs).length ≤ ((text ++ back).takeWhile belongs).length := by
  rw [List.takeWhile_append]
  split
  · next h => rw [h, List.length_append]; omega
  · exact Nat.le_refl _

/-- A run that ends within a front of a text is the run of that front. -/
theorem takeWhile_eq_of_append {belongs : Char → Bool}
    (h : (token ++ (rest ++ back)).takeWhile belongs = token) :
    (token ++ rest).takeWhile belongs = token := by
  have hall : ∀ c ∈ token, belongs c := by
    intro c hc
    rw [← h] at hc
    exact List.mem_takeWhile_imp hc
  rw [List.takeWhile_append_of_pos hall] at h ⊢
  have hnil : (rest ++ back).takeWhile belongs = [] := by simpa using h
  have hlength := length_takeWhile_le_append belongs rest back
  rw [hnil, List.length_nil] at hlength
  rw [List.eq_nil_of_length_eq_zero (Nat.le_zero.1 hlength), List.append_nil]

theorem prefix_of_runOf {least : Nat} {belongs : Char → Bool}
    (h : runOf least belongs text = some token) : token <+: text :=
  (runOf_eq_some_iff.1 h).2 ▸ List.takeWhile_prefix _

theorem runOf_of_append {least : Nat} {belongs : Char → Bool}
    (h : runOf least belongs (token ++ (rest ++ back)) = some token) :
    runOf least belongs (token ++ rest) = some token := by
  obtain ⟨hlength, heq⟩ := runOf_eq_some_iff.1 h
  exact runOf_eq_some_iff.2 ⟨hlength, takeWhile_eq_of_append heq⟩

theorem runOf_eq_none_of_append {least : Nat} {belongs : Char → Bool}
    (h : runOf least belongs (text ++ back) = none) : runOf least belongs text = none := by
  rw [runOf_eq_none_iff] at h ⊢
  exact Nat.lt_of_le_of_lt (length_takeWhile_le_append belongs text back) h

namespace Alternative

variable {alternative : Alternative}

/-- What an alternative takes is a front of the text, and not empty. -/
theorem match?_spec (h : alternative.match? text = some token) :
    token <+: text ∧ token ≠ [] := by
  have run : ∀ {least belongs}, 1 ≤ least → runOf least belongs text = some token →
      token <+: text ∧ token ≠ [] := by
    intro least belongs hleast h
    have hlength := (runOf_eq_some_iff.1 h).1
    exact ⟨prefix_of_runOf h, List.ne_nil_of_length_pos (by omega)⟩
  cases alternative with
  | star =>
      simp only [match?, Option.ite_none_right_eq_some, Option.some.injEq] at h
      obtain ⟨rest, rfl⟩ := List.head?_eq_some_iff.1 h.1
      exact h.2 ▸ ⟨⟨rest, rfl⟩, by simp⟩
  | lead marker => exact run (Nat.le_max_right _ _) h
  | blanks => exact run (Nat.le_refl 1) h
  | word => exact run (Nat.le_refl 1) h
  | other =>
      obtain ⟨c, hhead, rfl⟩ := Option.map_eq_some_iff.1 h
      obtain ⟨rest, rfl⟩ := List.head?_eq_some_iff.1 hhead
      exact ⟨⟨rest, rfl⟩, by simp⟩

/-- A token stays what an alternative takes if the text is cut somewhere behind it. -/
theorem match?_of_append (h : alternative.match? (token ++ (rest ++ back)) = some token) :
    alternative.match? (token ++ rest) = some token := by
  obtain ⟨c, cs, rfl⟩ := List.exists_cons_of_ne_nil (match?_spec h).2
  cases alternative with
  | star => exact h
  | lead marker => exact runOf_of_append h
  | blanks => exact runOf_of_append h
  | word => exact runOf_of_append h
  | other => exact h

/-- An alternative that takes nothing takes nothing from a front of the text either. -/
theorem match?_eq_none_of_append (h : alternative.match? (text ++ back) = none) :
    alternative.match? text = none := by
  cases alternative with
  | star =>
      cases text with
      | nil => rfl
      | cons c cs => exact h
  | lead marker => exact runOf_eq_none_of_append h
  | blanks => exact runOf_eq_none_of_append h
  | word => exact runOf_eq_none_of_append h
  | other =>
      cases text with
      | nil => rfl
      | cons c cs => exact h

end Alternative

namespace Tokenizer

/-- A token stands in front of a text: the first alternative that matches takes just it. -/
def Takes (t : Tokenizer) (token rest : List Char) : Prop :=
  t.alternatives.findSome? (·.match? (token ++ rest)) = some token

theorem Takes.ne_nil (h : t.Takes token rest) : token ≠ [] := by
  obtain ⟨alternative, -, hmatch⟩ := List.exists_of_findSome?_eq_some h
  exact (Alternative.match?_spec hmatch).2

theorem Takes.tokens_eq (h : t.Takes token rest) :
    t.tokens (token ++ rest) = token :: t.tokens rest := by
  obtain ⟨c, cs, rfl⟩ := List.exists_cons_of_ne_nil h.ne_nil
  have htail : t.firstTail c (cs ++ rest) = cs := by
    simp only [Takes, List.cons_append] at h
    simp [firstTail, h]
  rw [List.cons_append, tokens, htail]
  simp

/-- Whatever follows, any one character is a token in the end. -/
theorem exists_takes (t : Tokenizer) (h : text ≠ []) :
    ∃ token rest, text = token ++ rest ∧ t.Takes token rest := by
  obtain ⟨c, cs, rfl⟩ := List.exists_cons_of_ne_nil h
  have hsome : (t.alternatives.findSome? (·.match? (c :: cs))).isSome := by
    rw [List.findSome?_isSome_iff]
    exact ⟨.other, by simp [alternatives], rfl⟩
  obtain ⟨token, htoken⟩ := Option.isSome_iff_exists.1 hsome
  obtain ⟨alternative, -, hmatch⟩ := List.exists_of_findSome?_eq_some htoken
  obtain ⟨rest, hrest⟩ := (Alternative.match?_spec hmatch).1
  refine ⟨token, rest, hrest.symm, ?_⟩
  rw [Takes, hrest]
  exact htoken

/-- A token in front of a text stays in front if the text is cut somewhere behind it. -/
theorem Takes.of_append (h : t.Takes token (rest ++ back)) : t.Takes token rest := by
  unfold Takes at h ⊢
  generalize t.alternatives = alternatives at h ⊢
  induction alternatives with
  | nil => simp at h
  | cons alternative others ih =>
      rw [List.findSome?_cons] at h ⊢
      cases hmatch : alternative.match? (token ++ (rest ++ back)) with
      | none =>
          rw [hmatch] at h
          rw [← List.append_assoc] at hmatch
          rw [Alternative.match?_eq_none_of_append hmatch]
          exact ih h
      | some taken =>
          rw [hmatch] at h
          obtain rfl := Option.some.inj h
          rw [Alternative.match?_of_append hmatch]

@[simp] theorem tokens_nil (t : Tokenizer) : t.tokens [] = [] := by rw [tokens]

/-- Proofs about the tokens of a text follow the tokens from the left. -/
theorem tokens_induction (t : Tokenizer) {motive : List Char → Prop} (nil : motive [])
    (takes : ∀ token rest, t.Takes token rest → motive rest → motive (token ++ rest)) :
    ∀ text, motive text := by
  intro text
  induction hn : text.length using Nat.strong_induction_on generalizing text with
  | _ n ih =>
      by_cases hnil : text = []
      · exact hnil ▸ nil
      · obtain ⟨token, rest, rfl, htakes⟩ := t.exists_takes hnil
        have hpos := List.length_pos_iff.2 htakes.ne_nil
        have hlength : rest.length < n := by rw [← hn, List.length_append]; omega
        exact takes token rest htakes (ih rest.length hlength rest rfl)

/-- Nothing of a text is lost and nothing is added. -/
@[simp] theorem flatten_tokens (t : Tokenizer) (text : List Char) :
    (t.tokens text).flatten = text := by
  induction text using t.tokens_induction with
  | nil => simp
  | takes token rest h ih => rw [h.tokens_eq, List.flatten_cons, ih]

theorem ne_nil_of_mem_tokens (h : token ∈ t.tokens text) : token ≠ [] := by
  induction text using t.tokens_induction with
  | nil => simp at h
  | takes first rest htakes ih =>
      rw [htakes.tokens_eq, List.mem_cons] at h
      rcases h with rfl | h
      · exact htakes.ne_nil
      · exact ih h

/-- The tokens of a text begin with a token that stands in front of it. -/
theorem takes_of_tokens_eq_cons {tail : List Token} (h : t.tokens text = token :: tail) :
    t.Takes token tail.flatten ∧ t.tokens tail.flatten = tail := by
  have hne : text ≠ [] := by rintro rfl; simp at h
  obtain ⟨first, rest, rfl, htakes⟩ := t.exists_takes hne
  rw [htakes.tokens_eq, List.cons.injEq] at h
  obtain ⟨rfl, rfl⟩ := h
  rw [flatten_tokens]
  exact ⟨htakes, rfl⟩

/-- Either side of a list of tokens is what its own text is cut into. -/
theorem tokens_flatten {front tail : List Token} (h : t.tokens text = front ++ tail) :
    t.tokens front.flatten = front ∧ t.tokens tail.flatten = tail := by
  induction front generalizing text with
  | nil => exact ⟨t.tokens_nil, by rw [← List.nil_append tail, ← h, flatten_tokens]⟩
  | cons token front ih =>
      obtain ⟨htakes, hrest⟩ := takes_of_tokens_eq_cons h
      obtain ⟨hfront, htail⟩ := ih hrest
      have htoken : t.Takes token (front.flatten ++ tail.flatten) := by
        rw [← List.flatten_append]; exact htakes
      rw [List.flatten_cons, htoken.of_append.tokens_eq, hfront]
      exact ⟨rfl, htail⟩

/-- A text can be cut between two of its characters without changing its tokens. -/
def Cuts (t : Tokenizer) (before after : List Char) : Prop :=
  t.tokens (before ++ after) = t.tokens before ++ t.tokens after

@[simp] theorem cuts_nil_left (t : Tokenizer) (after : List Char) : t.Cuts [] after := by
  simp [Cuts]

@[simp] theorem cuts_nil_right (t : Tokenizer) (before : List Char) : t.Cuts before [] := by
  simp [Cuts]

/-- A text can be cut where a token ends, and only there. -/
theorem cuts_iff : t.Cuts before after ↔
    ∃ front tail, t.tokens (before ++ after) = front ++ tail ∧ front.flatten = before := by
  constructor
  · intro h
    exact ⟨t.tokens before, t.tokens after, h, t.flatten_tokens before⟩
  · rintro ⟨front, tail, h, rfl⟩
    obtain ⟨hfront, htail⟩ := tokens_flatten h
    have hafter : tail.flatten = after := by
      have := t.flatten_tokens (front.flatten ++ after)
      rw [h, List.flatten_append] at this
      exact List.append_cancel_left this
    rw [Cuts, h, hfront, ← hafter, htail]

theorem Takes.cuts (h : t.Takes token rest) : t.Cuts token rest :=
  cuts_iff.2 ⟨[token], t.tokens rest, h.tokens_eq, by simp⟩

/-- Behind a first cut, a text can be cut where the part behind it can. -/
theorem Cuts.append_iff {middle : List Char} (h : t.Cuts before (middle ++ after)) :
    t.Cuts (before ++ middle) after ↔ t.Cuts middle after := by
  constructor
  · intro hcut
    have heq : t.tokens before ++ t.tokens (middle ++ after) =
        t.tokens (before ++ middle) ++ t.tokens after := by
      rw [← h, ← hcut, List.append_assoc]
    rcases List.append_eq_append_iff.1 heq with ⟨between, hfront, htail⟩ | ⟨between, hfront, htail⟩
    · refine cuts_iff.2 ⟨between, _, htail, ?_⟩
      have := congrArg List.flatten hfront
      simpa using this.symm
    · have hlength := congrArg (fun tokens => tokens.flatten.length) hfront
      simp only [List.flatten_append, flatten_tokens, List.length_append] at hlength
      have hnil : middle = [] := List.eq_nil_of_length_eq_zero (by omega)
      rw [hnil]
      exact t.cuts_nil_left after
  · intro hcut
    refine cuts_iff.2 ⟨t.tokens before ++ t.tokens middle, t.tokens after, ?_, by simp⟩
    rw [List.append_assoc, h, hcut, List.append_assoc]

/-- Of two cuts of a text, the first is one of the text in front of the second. -/
theorem Cuts.of_append {middle : List Char} (h : t.Cuts before (middle ++ after))
    (hcut : t.Cuts (before ++ middle) after) : t.Cuts before middle := by
  have hmiddle := h.append_iff.1 hcut
  rw [Cuts, hmiddle, ← List.append_assoc, ← List.append_assoc, hcut] at h
  exact List.append_cancel_right h

/-! ### Offsets of the boundaries -/

/-- The byte offsets at which the tokens of a text begin, and that of its end. -/
def boundaries (t : Tokenizer) (text : List Char) : List Nat :=
  (placed 0 (t.tokens text)).map (·.1) ++ [Text.byteLength text]

theorem mem_placed_iff (offset : Nat) (pieces : List Token) {k : Nat} :
    k ∈ (placed offset pieces).map (·.1) ++ [offset + Text.byteLength pieces.flatten] ↔
      ∃ front back, pieces = front ++ back ∧ offset + Text.byteLength front.flatten = k := by
  induction pieces generalizing offset with
  | nil =>
      simp only [placed, List.map_nil, List.nil_append, List.mem_singleton, List.nil_eq,
        List.append_eq_nil_iff]
      constructor
      · rintro rfl
        exact ⟨[], [], ⟨rfl, rfl⟩, rfl⟩
      · rintro ⟨front, back, ⟨rfl, rfl⟩, hk⟩
        exact hk.symm
  | cons piece pieces ih =>
      have ih := ih (offset + Text.byteLength piece)
      simp only [placed, List.map_cons, List.cons_append, List.mem_cons, List.flatten_cons,
        Text.byteLength_append, ← Nat.add_assoc, ih]
      constructor
      · rintro (rfl | ⟨front, back, rfl, hk⟩)
        · exact ⟨[], piece :: pieces, rfl, rfl⟩
        · exact ⟨piece :: front, back, rfl, by simpa [Nat.add_assoc] using hk⟩
      · rintro ⟨front, back, hpieces, hk⟩
        cases front with
        | nil => exact .inl hk.symm
        | cons first front =>
            obtain ⟨rfl, rfl⟩ := List.cons.inj hpieces
            exact .inr ⟨front, back, rfl, by simpa [Nat.add_assoc] using hk⟩

/-- The boundaries of a text are the offsets between some of its tokens and the others. -/
theorem mem_boundaries_iff_tokens {k : Nat} : k ∈ t.boundaries text ↔
    ∃ front tail, t.tokens text = front ++ tail ∧ Text.byteLength front.flatten = k := by
  have hmem := mem_placed_iff 0 (t.tokens text) (k := k)
  simpa only [boundaries, flatten_tokens, Nat.zero_add] using hmem

/-- The boundaries are the offsets of the places that no token goes across. -/
theorem mem_boundaries_iff {k : Nat} : k ∈ t.boundaries text ↔
    ∃ before after, text = before ++ after ∧ t.Cuts before after ∧ Text.byteLength before = k := by
  rw [mem_boundaries_iff_tokens]
  constructor
  · rintro ⟨front, back, htokens, hk⟩
    have htext : text = front.flatten ++ back.flatten := by
      rw [← List.flatten_append, ← htokens, flatten_tokens]
    refine ⟨front.flatten, back.flatten, htext, ?_, hk⟩
    exact cuts_iff.2 ⟨front, back, htext ▸ htokens, rfl⟩
  · rintro ⟨before, after, rfl, hcuts, rfl⟩
    exact ⟨t.tokens before, t.tokens after, hcuts, by simp⟩

theorem zero_mem_boundaries (t : Tokenizer) (text : List Char) : 0 ∈ t.boundaries text :=
  mem_boundaries_iff.2 ⟨[], text, rfl, t.cuts_nil_left text, rfl⟩

end Tokenizer

end EditorCore
