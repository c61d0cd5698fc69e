import EditorCore.Proofs.Token.Alignment
import Mathlib.Data.List.Chain

/-!
# Tokens by priority

The rule for tokens, said without a function that cuts: an alternative allows some texts, a
token is the longest front of what is left that an alternative allows, and the alternative is
the first one that allows any front at all. Together with the places of the tokens this rule
leaves only one way to cut up a text, and it is the one that cutting finds. Nothing is assumed
of the comment leads, which can be blanks, characters of words, asterisks, or one another.
-/

namespace EditorCore

variable {t : Tokenizer} {text rest token other : List Char}

/-! ### Runs -/

/-- A front of a text with characters of one kind only lies within the run of that kind. -/
theorem length_le_takeWhile {belongs : Char → Bool} (hfront : other <+: text)
    (hall : ∀ c ∈ other, belongs c = true) :
    other.length ≤ (text.takeWhile belongs).length := by
  obtain ⟨back, rfl⟩ := hfront
  rw [List.takeWhile_append_of_pos hall, List.length_append]
  omega

/-- A run that is long enough is the longest front of its kind. -/
theorem longest_of_runOf {least : Nat} {belongs : Char → Bool}
    (h : runOf least belongs text = some token) :
    (least ≤ token.length ∧ ∀ c ∈ token, belongs c = true) ∧
      ∀ other, other <+: text → (∀ c ∈ other, belongs c = true) →
        other.length ≤ token.length := by
  obtain ⟨hleast, rfl⟩ := runOf_eq_some_iff.1 h
  refine ⟨⟨hleast, fun c hc => List.mem_takeWhile_imp hc⟩, ?_⟩
  intro other hfront hall
  exact length_le_takeWhile hfront hall

/-- Where a run is too short, no front of its kind is long enough. -/
theorem length_lt_of_runOf {least : Nat} {belongs : Char → Bool}
    (h : runOf least belongs text = none) (hfront : other <+: text)
    (hall : ∀ c ∈ other, belongs c = true) : other.length < least := by
  have hle := length_le_takeWhile hfront hall
  rw [runOf_eq_none_iff] at h
  omega

namespace Alternative

variable {alternative : Alternative}

/-- The texts that an alternative allows for a token. -/
def Allows : Alternative → Token → Prop
  | .star, token => token = ['*']
  | .lead marker, token => ∃ n, max marker.minRun 1 ≤ n ∧ token = List.replicate n marker.char
  | .blanks, token => token ≠ [] ∧ ∀ c ∈ token, Text.isBlank c = true
  | .word, token => token ≠ [] ∧ ∀ c ∈ token, Token.isWordChar c = true
  | .other, token => ∃ c, token = [c] ∧ Text.isBlank c = false ∧ Token.isWordChar c = false

theorem allows_lead_iff {marker : CommentLead} : (Alternative.lead marker).Allows token ↔
    marker.least ≤ token.length ∧ ∀ c ∈ token, (c == marker.char) = true := by
  constructor
  · rintro ⟨n, hn, rfl⟩
    refine ⟨by simpa [CommentLead.least] using hn, ?_⟩
    intro c hc
    simpa using List.eq_of_mem_replicate hc
  · rintro ⟨hlength, hall⟩
    refine ⟨token.length, hlength, List.eq_replicate_iff.2 ⟨rfl, ?_⟩⟩
    intro c hc
    simpa using hall c hc

/-- The longest front of a text that an alternative allows. -/
structure IsGreedy (alternative : Alternative) (text token : List Char) : Prop where
  front : token <+: text
  allowed : alternative.Allows token
  longest : ∀ other, other <+: text → alternative.Allows other → other.length ≤ token.length

/-- What an alternative takes is the longest front that it allows. -/
theorem isGreedy_of_match? (h : alternative.match? text = some token)
    (hother : alternative = .other → alternative.Allows token) :
    alternative.IsGreedy text token := by
  have hfront := (match?_spec h).1
  cases alternative with
  | star =>
      simp only [match?, Option.ite_none_right_eq_some, Option.some.injEq] at h
      obtain ⟨-, rfl⟩ := h
      refine ⟨hfront, rfl, ?_⟩
      rintro other - rfl
      rfl
  | lead marker =>
      obtain ⟨hallowed, hlongest⟩ := longest_of_runOf h
      refine ⟨hfront, allows_lead_iff.2 hallowed, ?_⟩
      intro other hother hallows
      exact hlongest other hother (allows_lead_iff.1 hallows).2
  | blanks =>
      obtain ⟨hallowed, hlongest⟩ := longest_of_runOf h
      refine ⟨hfront, ⟨List.ne_nil_of_length_pos hallowed.1, hallowed.2⟩, ?_⟩
      intro other hother hallows
      exact hlongest other hother hallows.2
  | word =>
      obtain ⟨hallowed, hlongest⟩ := longest_of_runOf h
      refine ⟨hfront, ⟨List.ne_nil_of_length_pos hallowed.1, hallowed.2⟩, ?_⟩
      intro other hother hallows
      exact hlongest other hother hallows.2
  | other =>
      refine ⟨hfront, hother rfl, ?_⟩
      rintro other - ⟨c, rfl, -⟩
      exact List.length_pos_iff.2 (match?_spec h).2

/-- An alternative that takes nothing allows no front of the text. -/
theorem not_allows_of_match? (h : alternative.match? text = none) (hfront : other <+: text) :
    ¬ alternative.Allows other := by
  intro hallows
  cases alternative with
  | star =>
      obtain rfl : other = ['*'] := hallows
      obtain ⟨back, rfl⟩ := hfront
      simp [match?] at h
  | lead marker =>
      obtain ⟨hleast, hall⟩ := allows_lead_iff.1 hallows
      have hlt := length_lt_of_runOf h hfront hall
      omega
  | blanks =>
      have hlt := length_lt_of_runOf h hfront hallows.2
      exact hallows.1 (List.eq_nil_of_length_eq_zero (by omega))
  | word =>
      have hlt := length_lt_of_runOf h hfront hallows.2
      exact hallows.1 (List.eq_nil_of_length_eq_zero (by omega))
  | other =>
      obtain ⟨c, rfl, -⟩ := hallows
      obtain ⟨back, rfl⟩ := hfront
      simp [match?] at h

/-- The longest front that an alternative allows is what it takes. -/
theorem IsGreedy.match?_eq (h : alternative.IsGreedy text token) :
    alternative.match? text = some token := by
  cases hmatch : alternative.match? text with
  | none => exact absurd h.allowed (not_allows_of_match? hmatch h.front)
  | some taken =>
      have hother : alternative = .other → alternative.Allows taken := by
        rintro rfl
        obtain ⟨c, rfl, hc⟩ := h.allowed
        obtain ⟨back, rfl⟩ := h.front
        obtain rfl : [c] = taken := by simpa [match?] using hmatch
        exact ⟨c, rfl, hc⟩
      have htaken := isGreedy_of_match? hmatch hother
      have hlength : taken.length = token.length := by
        apply Nat.le_antisymm
        · exact h.longest taken htaken.front htaken.allowed
        · exact htaken.longest token h.front h.allowed
      have hfront := List.prefix_of_prefix_length_le htaken.front h.front (Nat.le_of_eq hlength)
      rw [hfront.eq_of_length hlength]

end Alternative

namespace Tokenizer

/--
The token that is due in front of a text: the longest front allowed by the first alternative
that allows any.
-/
def IsDue (t : Tokenizer) (text token : List Char) : Prop :=
  ∃ earlier alternative later, t.alternatives = earlier ++ alternative :: later ∧
    (∀ passed ∈ earlier, ∀ other, other <+: text → ¬ passed.Allows other) ∧
    alternative.IsGreedy text token

/-- Any other character is the last alternative, behind those of blanks and of words. -/
theorem exists_front_alternatives (t : Tokenizer) : ∃ front : List Alternative,
    t.alternatives = front ++ [.other] ∧ .other ∉ front ∧ .blanks ∈ front ∧ .word ∈ front :=
  ⟨.star :: t.commentLeads.map .lead ++ [.blanks, .word], by simp [alternatives], by simp,
    by simp, by simp⟩

theorem earlier_of_alternatives_eq {earlier later : List Alternative} {alternative : Alternative}
    (h : t.alternatives = earlier ++ alternative :: later) : .other ∉ earlier ∧
      (alternative = .other → .blanks ∈ earlier ∧ .word ∈ earlier) := by
  obtain ⟨front, hfront, hother, hblanks, hword⟩ := t.exists_front_alternatives
  rw [hfront] at h
  rcases List.append_eq_append_iff.1 h with ⟨between, rfl, hbetween⟩ | ⟨between, rfl, hrest⟩
  · -- nothing fits between those in front of the last alternative and the last one
    have hnil : between = [] := by
      have hlength := congrArg List.length hbetween
      simp only [List.length_append, List.length_cons, List.length_nil] at hlength
      apply List.eq_nil_of_length_eq_zero
      omega
    rw [hnil, List.append_nil]
    exact ⟨hother, fun _ => ⟨hblanks, hword⟩⟩
  · refine ⟨fun hmem => hother (List.mem_append_left _ hmem), ?_⟩
    rintro rfl
    cases between with
    | nil =>
        rw [List.append_nil] at hblanks hword
        exact ⟨hblanks, hword⟩
    | cons b between =>
        obtain ⟨rfl, -⟩ := List.cons.inj hrest
        exact absurd (List.mem_append_right _ List.mem_cons_self) hother

/-- A token stands in front of a text exactly if it is due there. -/
theorem takes_iff_isDue : t.Takes token rest ↔ t.IsDue (token ++ rest) token := by
  rw [Takes, List.findSome?_eq_some_iff]
  constructor
  · rintro ⟨earlier, alternative, later, halternatives, hmatch, hnone⟩
    refine ⟨earlier, alternative, later, halternatives, ?_, ?_⟩
    · intro passed hpassed other hfront
      exact Alternative.not_allows_of_match? (hnone passed hpassed) hfront
    · refine Alternative.isGreedy_of_match? hmatch ?_
      -- no blank and no character of words is left for the last alternative
      rintro rfl
      obtain ⟨hblanks, hword⟩ := (earlier_of_alternatives_eq halternatives).2 rfl
      obtain ⟨c, hhead, rfl⟩ := Option.map_eq_some_iff.1 hmatch
      have hfront : [c] <+: [c] ++ rest := ⟨rest, rfl⟩
      refine ⟨c, rfl, ?_, ?_⟩
      · have := Alternative.not_allows_of_match? (hnone .blanks hblanks) hfront
        simpa [Alternative.Allows] using this
      · have := Alternative.not_allows_of_match? (hnone .word hword) hfront
        simpa [Alternative.Allows] using this
  · rintro ⟨earlier, alternative, later, halternatives, hpassed, hgreedy⟩
    refine ⟨earlier, alternative, later, halternatives, hgreedy.match?_eq, ?_⟩
    intro passed hmem
    by_contra hsome
    obtain ⟨taken, htaken⟩ := Option.ne_none_iff_exists'.1 hsome
    have hother : passed ≠ .other := by
      rintro rfl
      exact (earlier_of_alternatives_eq halternatives).1 hmem
    have htaken := Alternative.isGreedy_of_match? htaken fun h => absurd h hother
    exact hpassed passed hmem taken htaken.front htaken.allowed

/-! ### Pieces and their places -/

/-- Pieces are placed if the first one is at the offset and each other one where one ends. -/
theorem eq_placed_iff {pieces : List (Nat × Token)} {offset : Nat} :
    pieces = placed offset (pieces.map (·.2)) ↔ (∀ p ∈ pieces.head?, p.1 = offset) ∧
      pieces.IsChain fun p q => q.1 = p.1 + Text.byteLength p.2 := by
  induction pieces generalizing offset with
  | nil => simp [placed]
  | cons p pieces ih =>
      obtain ⟨start, piece⟩ := p
      simp only [List.map_cons, placed, List.cons.injEq, Prod.mk.injEq, and_true, ih,
        List.isChain_cons, List.head?_cons, Option.mem_some_iff, forall_eq']
      constructor
      · rintro ⟨rfl, h⟩
        exact ⟨rfl, h⟩
      · rintro ⟨rfl, h⟩
        exact ⟨rfl, h⟩

@[simp] theorem map_snd_placed (offset : Nat) (pieces : List Token) :
    (placed offset pieces).map (·.2) = pieces := by
  induction pieces generalizing offset with
  | nil => rfl
  | cons piece pieces ih => rw [placed, List.map_cons, ih]

/-- The tokens of a text are the pieces of it that each stand in front of those behind. -/
theorem eq_tokens_iff {pieces : List Token} : pieces = t.tokens text ↔
    pieces.flatten = text ∧ ∀ front piece tail, pieces = front ++ piece :: tail →
      t.Takes piece tail.flatten := by
  constructor
  · rintro rfl
    refine ⟨t.flatten_tokens text, ?_⟩
    intro front piece tail hpieces
    exact (takes_of_tokens_eq_cons (tokens_flatten hpieces).2).1
  · rintro ⟨rfl, htakes⟩
    induction pieces with
    | nil => simp
    | cons piece pieces ih =>
        have hfirst := htakes [] piece pieces rfl
        rw [List.flatten_cons, hfirst.tokens_eq, ← ih]
        intro front next tail hpieces
        exact htakes (piece :: front) next tail (by rw [hpieces, List.cons_append])

/-- Pieces of a text with their offsets, each of them the token that is due at its offset. -/
structure IsPartition (t : Tokenizer) (text : List Char) (pieces : List (Nat × Token)) : Prop where
  ne_nil : ∀ p ∈ pieces, p.2 ≠ []
  /-- The first piece is at the start of the text. -/
  starts : ∀ p ∈ pieces.head?, p.1 = 0
  /-- Each other piece is where the one before it ends. -/
  adjoins : pieces.IsChain fun p q => q.1 = p.1 + Text.byteLength p.2
  flatten : (pieces.map (·.2)).flatten = text
  due : ∀ p ∈ pieces, ∃ before after, text = before ++ (p.2 ++ after) ∧
    Text.byteLength before = p.1 ∧ t.IsDue (p.2 ++ after) p.2

/-- Whatever the comment leads are, a text has one partition by the rule: its tokens. -/
theorem isPartition_iff {pieces : List (Nat × Token)} :
    t.IsPartition text pieces ↔ pieces = placed 0 (t.tokens text) := by
  constructor
  · intro h
    have hplaced := eq_placed_iff.2 ⟨h.starts, h.adjoins⟩
    have htokens : pieces.map (·.2) = t.tokens text := by
      refine eq_tokens_iff.2 ⟨h.flatten, ?_⟩
      intro front piece tail hpieces
      have hmem : (Text.byteLength front.flatten, piece) ∈ pieces := by
        rw [hplaced, mem_placed_pair_iff]
        exact ⟨front, tail, hpieces, by omega⟩
      obtain ⟨before, after, htext, hoffset, hdue⟩ := h.due _ hmem
      have hcut : text = front.flatten ++ (piece ++ tail.flatten) := by
        rw [← h.flatten, hpieces, List.flatten_append, List.flatten_cons]
      obtain ⟨-, hrest⟩ := Text.eq_of_byteLength_eq (htext.symm.trans hcut) hoffset
      rw [List.append_cancel_left hrest] at hdue
      exact takes_iff_isDue.2 hdue
    rw [← htokens]
    exact hplaced
  · rintro rfl
    obtain ⟨hstarts, hadjoins⟩ := eq_placed_iff.1
      (congrArg (placed 0) (map_snd_placed 0 (t.tokens text)).symm)
    refine ⟨?_, hstarts, hadjoins, by simp, ?_⟩
    · intro p hp
      exact ne_nil_of_mem_tokens (map_snd_placed 0 (t.tokens text) ▸ List.mem_map_of_mem hp)
    · rintro ⟨offset, token⟩ hp
      obtain ⟨front, tail, htokens, hoffset⟩ := (mem_placed_pair_iff 0 _).1 hp
      refine ⟨front.flatten, tail.flatten, ?_, by omega, ?_⟩
      · rw [← t.flatten_tokens text, htokens, List.flatten_append, List.flatten_cons]
      · exact takes_iff_isDue.1 ((eq_tokens_iff.1 rfl).2 front token tail htokens)

/-- A lead goes before the word that it is in the front of, but not into a word begun. -/
example : placed 0 ((⟨[⟨'a', 2⟩, ⟨'*', 1⟩]⟩ : Tokenizer).tokens
    ['a', 'a', 'b', 'a', 'a', '*', '*']) =
      [(0, ['a', 'a']), (2, ['b', 'a', 'a']), (5, ['*']), (6, ['*'])] := by
  decide +kernel

end Tokenizer

end EditorCore
