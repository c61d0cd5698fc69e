import EditorCore.Proofs.Text.Offsets
import EditorCore.Proofs.Token.Places
import Mathlib.Order.Bounds.Defs

/-!
# Alignment with tokens

Looking around from a place never cuts the text from its start, yet finds what cutting
finds. Behind a token that token is found, and a byte offset is aligned with the nearest
boundaries on either side of it. The comment leads can be any that no blank and no
character of words is among.
-/

namespace EditorCore

namespace Tokenizer

variable {t : Tokenizer} {text before after : List Char} {token : Token} {k offset : Nat}

/-- A token of a text ends at a byte offset. -/
def EndsAt (t : Tokenizer) (text : List Char) (k : Nat) (token : Token) : Prop :=
  ∃ offset, (offset, token) ∈ placed 0 (t.tokens text) ∧ offset + Text.byteLength token = k

/-! ### Tokens and their ends -/

/-- A token is placed behind the bytes of the pieces in front of it. -/
theorem mem_placed_pair_iff (start : Nat) (pieces : List Token) :
    (offset, token) ∈ placed start pieces ↔ ∃ front tail,
      pieces = front ++ token :: tail ∧ start + Text.byteLength front.flatten = offset := by
  induction pieces generalizing start with
  | nil => simp [placed]
  | cons piece pieces ih =>
      simp only [placed, List.mem_cons, Prod.mk.injEq, ih]
      constructor
      · rintro (⟨rfl, rfl⟩ | ⟨front, tail, rfl, hoffset⟩)
        · exact ⟨[], pieces, rfl, by simp⟩
        · refine ⟨piece :: front, tail, rfl, ?_⟩
          simp only [List.flatten_cons, Text.byteLength_append]
          omega
      · rintro ⟨front, tail, hpieces, hoffset⟩
        cases front with
        | nil =>
            obtain ⟨rfl, rfl⟩ := List.cons.inj hpieces
            exact .inl ⟨by simpa using hoffset.symm, rfl⟩
        | cons first front =>
            obtain ⟨rfl, rfl⟩ := List.cons.inj hpieces
            refine .inr ⟨front, tail, rfl, ?_⟩
            simp only [List.flatten_cons, Text.byteLength_append] at hoffset
            omega

/-- The token that ends at a cut is the last one of the text in front of it. -/
theorem Cuts.endsAt_iff (h : t.Cuts before after) :
    t.EndsAt (before ++ after) (Text.byteLength before) token ↔
      (t.tokens before).getLast? = some token := by
  simp only [EndsAt, mem_placed_pair_iff]
  constructor
  · rintro ⟨_, ⟨front, tail, htokens, rfl⟩, hend⟩
    have htext : before ++ after = (front ++ [token]).flatten ++ tail.flatten := by
      rw [← t.flatten_tokens (before ++ after), htokens]
      simp
    have hlength : Text.byteLength before = Text.byteLength (front ++ [token]).flatten := by
      simp only [List.flatten_append, List.flatten_singleton, Text.byteLength_append]
      omega
    obtain ⟨hbefore, -⟩ := Text.eq_of_byteLength_eq htext hlength
    rw [List.append_cons] at htokens
    rw [hbefore, (tokens_flatten htokens).1, List.getLast?_concat]
  · intro hlast
    obtain ⟨front, hfront⟩ := List.getLast?_eq_some_iff.1 hlast
    refine ⟨_, ⟨front, t.tokens after, ?_, rfl⟩, ?_⟩
    · rw [h, hfront, List.append_assoc, List.singleton_append]
    · have hflatten := t.flatten_tokens before
      rw [hfront] at hflatten
      rw [← hflatten]
      simp

/-- Behind each token, the token that is found by looking back is the one that ends there. -/
theorem tokenBefore?_of_mem_boundaries (ht : t.IsOrderly) (hk : k ∈ t.boundaries text)
    (hpos : 0 < k) : ∃ before after token, Text.splitAt? text k = some (before, after) ∧
      t.tokenBefore? before = some token ∧ ∀ other, t.EndsAt text k other ↔ other = token := by
  obtain ⟨before, after, rfl, hcut, rfl⟩ := mem_boundaries_iff.1 hk
  have hbefore : before ≠ [] := by
    intro hnil
    simp [hnil] at hpos
  have hne : t.tokens before ≠ [] := by
    intro hnil
    rw [← t.flatten_tokens before, hnil] at hbefore
    exact hbefore rfl
  obtain ⟨token, htoken⟩ := Option.isSome_iff_exists.1 (List.getLast?_isSome.2 hne)
  refine ⟨before, after, token, Text.splitAt?_byteLength before after, ?_, ?_⟩
  · rw [tokenBefore?_eq_getLast? ht, htoken]
  · intro other
    rw [hcut.endsAt_iff, htoken, Option.some.injEq]
    exact eq_comm

/-! ### Nearest boundaries -/

/-- No boundary lies inside a token. -/
theorem le_or_le_of_mem_boundaries {front tail : List Token}
    (htokens : t.tokens text = front ++ token :: tail) (hk : k ∈ t.boundaries text) :
    k ≤ Text.byteLength front.flatten ∨
      Text.byteLength front.flatten + Text.byteLength token ≤ k := by
  obtain ⟨pieces, others, hpieces, rfl⟩ := mem_boundaries_iff_tokens.1 hk
  rw [htokens] at hpieces
  rcases List.append_eq_append_iff.1 hpieces with ⟨between, rfl, hbetween⟩ | ⟨between, rfl, -⟩
  · cases between with
    | nil =>
        left
        simp
    | cons first between =>
        right
        obtain ⟨rfl, -⟩ := List.cons.inj hbetween
        simp only [List.flatten_append, List.flatten_cons, Text.byteLength_append]
        omega
  · left
    rw [List.flatten_append, Text.byteLength_append]
    omega

/-- A byte offset is aligned with the nearest boundaries, before it and behind it. -/
theorem align_of_mem_places (ht : t.IsOrderly) (hk : k ∈ Text.places text) :
    ∃ start stop, t.alignStart? text k = some start ∧ t.alignEnd? text k = some stop ∧
      IsGreatest {b | b ∈ t.boundaries text ∧ b ≤ k} start ∧
      IsLeast {b | b ∈ t.boundaries text ∧ k ≤ b} stop := by
  obtain ⟨before, after, rfl, rfl⟩ := Text.mem_places_iff.1 hk
  rw [alignStart?_byteLength, alignEnd?_byteLength]
  refine ⟨_, _, rfl, rfl, ?_⟩
  obtain ⟨front, tail, hbefore, hafter, htokens⟩ := exists_token_around ht before after
  generalize t.leftOf before after = left at hbefore hafter htokens ⊢
  generalize t.rightOf before after = right at hbefore hafter htokens ⊢
  subst hbefore hafter
  have hstart : Text.byteLength (front.flatten ++ left) - Text.byteLength left =
      Text.byteLength front.flatten := by
    rw [Text.byteLength_append]
    omega
  rw [hstart]
  rcases htokens with ⟨rfl, rfl, htokens⟩ | ⟨hleft, hright, htokens⟩
  · -- between two tokens the place is a boundary itself
    have hplace := mem_boundaries_iff_tokens.2 ⟨front, tail, htokens, rfl⟩
    simp only [List.append_nil, Text.byteLength_nil, Nat.add_zero] at hplace ⊢
    constructor
    · exact ⟨⟨hplace, Nat.le_refl _⟩, fun b hb => hb.2⟩
    · exact ⟨⟨hplace, Nat.le_refl _⟩, fun b hb => hb.2⟩
  · -- inside a token the nearest boundaries are its two ends
    have hfirst := mem_boundaries_iff_tokens.2 ⟨front, _, htokens, rfl⟩
    have hlast : Text.byteLength front.flatten + Text.byteLength left + Text.byteLength right ∈
        t.boundaries (front.flatten ++ left ++ (right ++ tail.flatten)) := by
      refine mem_boundaries_iff_tokens.2 ⟨front ++ [left ++ right], tail, ?_, ?_⟩
      · rw [htokens, List.append_assoc, List.singleton_append]
      · simp [Nat.add_assoc]
    have hleft := Text.byteLength_pos hleft
    have hright := Text.byteLength_pos hright
    simp only [Text.byteLength_append]
    constructor
    · refine ⟨⟨hfirst, by omega⟩, ?_⟩
      rintro b ⟨hb, hle⟩
      have := le_or_le_of_mem_boundaries htokens hb
      rw [Text.byteLength_append] at this
      omega
    · refine ⟨⟨hlast, by omega⟩, ?_⟩
      rintro b ⟨hb, hle⟩
      have := le_or_le_of_mem_boundaries htokens hb
      rw [Text.byteLength_append] at this
      omega

/--
Looking around from a place agrees with cutting the text from its start: at each boundary
behind the start the token found is the one that ends there, and each place is aligned with
the greatest boundary up to it and the least one from it on.
-/
theorem lookingAround_eq_cutting (ht : t.IsOrderly) (text : List Char) :
    (∀ k ∈ t.boundaries text, 0 < k →
      ∃ before after token, Text.splitAt? text k = some (before, after) ∧
        t.tokenBefore? before = some token ∧ ∀ other, t.EndsAt text k other ↔ other = token) ∧
    ∀ k ∈ Text.places text,
      ∃ start stop, t.alignStart? text k = some start ∧ t.alignEnd? text k = some stop ∧
        IsGreatest {b | b ∈ t.boundaries text ∧ b ≤ k} start ∧
        IsLeast {b | b ∈ t.boundaries text ∧ k ≤ b} stop :=
  ⟨fun _ hk hpos => tokenBefore?_of_mem_boundaries ht hk hpos,
    fun _ hk => align_of_mem_places ht hk⟩

/-- Of two leads of one character the shorter counts, and an asterisk leads nothing. -/
theorem lookingAround_two_leads :
    (⟨[⟨';', 3⟩, ⟨';', 2⟩, ⟨'*', 1⟩]⟩ : Tokenizer).IsOrderly ∧
      (∀ other, (⟨[⟨';', 3⟩, ⟨';', 2⟩, ⟨'*', 1⟩]⟩ : Tokenizer).EndsAt
        ['é', ';', ';', '*', '*'] 4 other ↔ other = [';', ';']) ∧
      IsGreatest {b | b ∈ (⟨[⟨';', 3⟩, ⟨';', 2⟩, ⟨'*', 1⟩]⟩ : Tokenizer).boundaries
        ['é', ';', ';', '*', '*'] ∧ b ≤ 3} 2 := by
  have ht : (⟨[⟨';', 3⟩, ⟨';', 2⟩, ⟨'*', 1⟩]⟩ : Tokenizer).IsOrderly := by decide
  obtain ⟨hends, haligned⟩ := lookingAround_eq_cutting ht ['é', ';', ';', '*', '*']
  refine ⟨ht, ?_, ?_⟩
  · obtain ⟨before, after, token, hsplit, htoken, hother⟩ := hends 4 (by decide +kernel) (by decide)
    have hfound : (Text.splitAt? ['é', ';', ';', '*', '*'] 4).bind
        (fun sides => (⟨[⟨';', 3⟩, ⟨';', 2⟩, ⟨'*', 1⟩]⟩ : Tokenizer).tokenBefore? sides.1) =
          some [';', ';'] := by decide +kernel
    rw [hsplit, Option.bind_some, htoken, Option.some.injEq] at hfound
    exact hfound ▸ hother
  · obtain ⟨start, stop, hstart, -, hgreatest, -⟩ := haligned 3 (by decide +kernel)
    have hfound : (⟨[⟨';', 3⟩, ⟨';', 2⟩, ⟨'*', 1⟩]⟩ : Tokenizer).alignStart?
        ['é', ';', ';', '*', '*'] 3 = some 2 := by decide +kernel
    rw [hfound, Option.some.injEq] at hstart
    exact hstart ▸ hgreatest

end Tokenizer

end EditorCore
