import EditorCore.Proofs.Token.Priority

/-!
# Splitting a text first

A text can be split at a place before it is cut into tokens. Where a token ends, the tokens
of both sides, those behind the place moved on by its offset, are the tokens of the text.
Inside a token they never are. What stands on one side of a boundary is thus of no account
for the tokens on the other, and nothing is assumed of the comment leads for it: a run that
is too short for a lead and a lead that can also be part of a word are no exception.
-/

namespace EditorCore

namespace Tokenizer

variable {t : Tokenizer} {text before after : List Char} {k : Nat}

/-- Pieces at their offsets, all of them so many bytes further on. -/
def movedBy (k : Nat) (pieces : List (Nat × Token)) : List (Nat × Token) :=
  pieces.map fun p => (k + p.1, p.2)

/-- The tokens of a text are, with their offsets, those of its two sides at a byte offset. -/
def SplitsAt (t : Tokenizer) (text : List Char) (k : Nat) : Prop :=
  ∃ before after, Text.splitAt? text k = some (before, after) ∧
    placed 0 (t.tokens text) = placed 0 (t.tokens before) ++ movedBy k (placed 0 (t.tokens after))

/-! ### Offsets of pieces -/

theorem movedBy_placed (k offset : Nat) (pieces : List Token) :
    movedBy k (placed offset pieces) = placed (k + offset) pieces := by
  induction pieces generalizing offset with
  | nil => rfl
  | cons piece pieces ih =>
      simp only [movedBy] at ih
      simp only [placed, movedBy, List.map_cons, ih, Nat.add_assoc]

/-- The pieces at the back begin where those at the front end. -/
theorem placed_append (offset : Nat) (front back : List Token) :
    placed offset (front ++ back) =
      placed offset front ++ placed (offset + Text.byteLength front.flatten) back := by
  induction front generalizing offset with
  | nil => rfl
  | cons piece front ih =>
      simp only [List.cons_append, placed, ih, List.flatten_cons, Text.byteLength_append,
        Nat.add_assoc]

/-- Pieces are known from where they are placed. -/
theorem placed_inj {offset : Nat} {pieces others : List Token} :
    placed offset pieces = placed offset others ↔ pieces = others := by
  constructor
  · intro h
    have hpieces := congrArg (List.map (·.2)) h
    rwa [map_snd_placed, map_snd_placed] at hpieces
  · intro h
    rw [h]

/-! ### Boundaries and the insides of tokens -/

/-- The tokens with their offsets split just where the tokens alone do. -/
theorem splitsAt_iff_cuts :
    t.SplitsAt (before ++ after) (Text.byteLength before) ↔ t.Cuts before after := by
  have hsides : placed 0 (t.tokens before) ++
      movedBy (Text.byteLength before) (placed 0 (t.tokens after)) =
        placed 0 (t.tokens before ++ t.tokens after) := by
    rw [movedBy_placed, placed_append, flatten_tokens, Nat.zero_add, Nat.add_zero]
  simp only [SplitsAt, Text.splitAt?_byteLength, Option.some.injEq, Prod.mk.injEq]
  constructor
  · rintro ⟨_, _, ⟨rfl, rfl⟩, h⟩
    rw [hsides] at h
    exact placed_inj.1 h
  · intro h
    refine ⟨before, after, ⟨rfl, rfl⟩, ?_⟩
    rw [hsides]
    exact placed_inj.2 h

/-- A place is a boundary if the text in front of it can be cut off there. -/
theorem byteLength_mem_boundaries_iff :
    Text.byteLength before ∈ t.boundaries (before ++ after) ↔ t.Cuts before after := by
  rw [mem_boundaries_iff]
  constructor
  · rintro ⟨front, back, htext, hcuts, hlength⟩
    obtain ⟨rfl, rfl⟩ := Text.eq_of_byteLength_eq htext hlength.symm
    exact hcuts
  · intro h
    exact ⟨before, after, rfl, h, rfl⟩

/-- A place that is no boundary is inside a token, and no place inside a token is one. -/
theorem not_mem_boundaries_iff (hk : k ∈ Text.places text) : k ∉ t.boundaries text ↔
    ∃ p ∈ placed 0 (t.tokens text), p.1 < k ∧ k < p.1 + Text.byteLength p.2 := by
  constructor
  · intro hnot
    obtain ⟨before, after, rfl, rfl⟩ := Text.mem_places_iff.1 hk
    rw [byteLength_mem_boundaries_iff, cuts_iff] at hnot
    rcases exists_piece_around (t.flatten_tokens (before ++ after)) with
      hends | ⟨front, left, right, tail, htokens, rfl, hleft, hright⟩
    · exact absurd hends hnot
    · refine ⟨(Text.byteLength front.flatten, left ++ right), ?_, ?_⟩
      · exact (mem_placed_pair_iff 0 _).2 ⟨front, tail, htokens, Nat.zero_add _⟩
      · have hleft := Text.byteLength_pos hleft
        have hright := Text.byteLength_pos hright
        simp only [Text.byteLength_append]
        omega
  · rintro ⟨⟨offset, token⟩, hp, hafter, hbefore⟩ hmem
    obtain ⟨front, tail, htokens, hoffset⟩ := (mem_placed_pair_iff 0 _).1 hp
    have := le_or_le_of_mem_boundaries htokens hmem
    simp only at hafter hbefore
    omega

/--
Whatever the comment leads are, the tokens of a text split at each of its boundaries, and at a
place strictly inside a token they do not.
-/
theorem splitsAt_iff_boundary (t : Tokenizer) (hk : k ∈ Text.places text) :
    (t.SplitsAt text k ↔ k ∈ t.boundaries text) ∧
      (¬ t.SplitsAt text k ↔
        ∃ p ∈ placed 0 (t.tokens text), p.1 < k ∧ k < p.1 + Text.byteLength p.2) := by
  have hsplits : t.SplitsAt text k ↔ k ∈ t.boundaries text := by
    obtain ⟨before, after, rfl, rfl⟩ := Text.mem_places_iff.1 hk
    rw [splitsAt_iff_cuts, byteLength_mem_boundaries_iff]
  refine ⟨hsplits, ?_⟩
  rw [hsplits]
  exact not_mem_boundaries_iff hk

/-- The end of a word would be a lead by itself, so that the word cannot be split before it. -/
theorem splitsAt_word_lead : 2 ∈ Text.places ['é', 'b', 'a', 'a'] ∧
    (⟨[⟨'a', 2⟩]⟩ : Tokenizer).SplitsAt ['é', 'b', 'a', 'a'] 2 ∧
    3 ∈ Text.places ['é', 'b', 'a', 'a'] ∧
    ¬ (⟨[⟨'a', 2⟩]⟩ : Tokenizer).SplitsAt ['é', 'b', 'a', 'a'] 3 := by
  have hstart : 2 ∈ Text.places ['é', 'b', 'a', 'a'] := by decide
  have hinside : 3 ∈ Text.places ['é', 'b', 'a', 'a'] := by decide
  refine ⟨hstart, ?_, hinside, ?_⟩
  · exact (splitsAt_iff_boundary _ hstart).1.2 (by decide +kernel)
  · exact (splitsAt_iff_boundary _ hinside).2.2 ⟨(2, ['b', 'a', 'a']), by decide +kernel⟩

end Tokenizer

end EditorCore
