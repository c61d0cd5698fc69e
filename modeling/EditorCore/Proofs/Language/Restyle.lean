import EditorCore.Proofs.Language.Pass

/-!
# Styling a range again

A range between two tokens that is styled again, behind styles that are those of one pass,
gets the styles of the pass, whatever its bytes had before. A text can therefore be styled
piece by piece.
-/

namespace EditorCore

variable {buffer : Buffer} {lexer : Lexer} {language : Language} {front middle tail : List Char}
  {before was behind : List Category} {runs : List Run}

namespace Buffer

@[simp] theorem text_putAll (buffer : Buffer) (offset : Nat) (runs : List Run) :
    (buffer.putAll offset runs).text = buffer.text := rfl

/-- Runs take the place of the styles that their bytes had. -/
theorem styles_putAll (hstyles : buffer.styles = before ++ (was ++ behind))
    (hwas : was.length = (Run.styles runs).length) :
    (buffer.putAll before.length runs).styles = before ++ (Run.styles runs ++ behind) := by
  have hlength : buffer.styles.length =
      before.length + ((Run.styles runs).length + behind.length) := by
    simp [hstyles, hwas]
  have hfront : buffer.styles.take before.length = before := by
    rw [hstyles, List.take_left]
  have hback : buffer.styles.drop (before.length + (Run.styles runs).length) = behind := by
    rw [hstyles, ← List.append_assoc, ← hwas, ← List.length_append, List.drop_left]
  have hroom : (Run.styles runs).take (buffer.styles.length - before.length) = Run.styles runs :=
    List.take_of_length_le (by omega)
  simp only [putAll]
  rw [Nat.min_eq_left (by omega), hfront, hback, hroom, List.append_assoc]

end Buffer

namespace Lexer

/-- A buffer has a style for every byte, and up to an offset they are those of one pass. -/
structure Agrees (lexer : Lexer) (buffer : Buffer) (offset : Nat) : Prop where
  length : buffer.styles.length = buffer.length
  styles : buffer.styles.take offset = (lexer.byteStyles buffer.text).take offset

/-- Up to the end of the text, the styles are all those of one pass. -/
theorem Agrees.styles_eq (h : lexer.Agrees buffer buffer.length) :
    buffer.styles = lexer.byteStyles buffer.text := by
  have hstyles := h.styles
  rwa [List.take_of_length_le h.length.le, List.take_of_length_le (by simp [Buffer.length])]
    at hstyles

theorem restyle?_of_le {start stop : Nat} (lexer : Lexer) (buffer : Buffer) (h : stop ≤ start) :
    lexer.restyle? buffer start stop = some buffer := by
  rw [restyle?, if_pos (le_trans (Nat.min_le_left _ _) h)]

/-- A range that is styled again continues the agreement, and keeps what is behind it. -/
theorem Agrees.restyle (htext : buffer.text = front ++ (middle ++ tail))
    (h : (ofLanguage language).Agrees buffer (Text.byteLength front))
    (hfront : (ofLanguage language).tokenizer.Cuts front (middle ++ tail))
    (hmiddle : (ofLanguage language).tokenizer.Cuts (front ++ middle) tail) :
    ∃ styled, (ofLanguage language).restyle? buffer (Text.byteLength front)
        (Text.byteLength (front ++ middle)) = some styled ∧ styled.text = buffer.text ∧
      styled.styles = ((ofLanguage language).byteStyles buffer.text).take
          (Text.byteLength (front ++ middle)) ++
        buffer.styles.drop (Text.byteLength (front ++ middle)) := by
  rcases eq_or_ne middle [] with rfl | hne
  · refine ⟨buffer, restyle?_of_le _ _ (by simp), rfl, ?_⟩
    rw [List.append_nil, ← h.styles, List.take_append_drop]
  obtain ⟨past, behind, rfl, rfl, hpast, hpass⟩ := range_resume language hfront hmiddle
  let lexer := ofLanguage language
  let range := lexer.range (Context.around past behind.text) middle
  have hbytes : lexer.byteStyles buffer.text = past.bytes ++ (range.bytes ++ behind.bytes) := by
    rw [byteStyles_eq, htext, hpass, Styled.bytes_append, Styled.bytes_append]
  have hrange : range.bytes.length = Text.byteLength middle := by simp [range]
  have htake : (lexer.byteStyles buffer.text).take (Text.byteLength (past.text ++ middle)) =
      past.bytes ++ range.bytes := by
    rw [hbytes, ← List.append_assoc, List.take_left']
    simp [hrange]
  have hlength : buffer.length =
      Text.byteLength (past.text ++ middle) + Text.byteLength behind.text := by
    simp [Buffer.length, htext, Nat.add_assoc]
  -- the styles are those of the pass in front, those to be written over, and those to be kept
  have hkept : buffer.styles.take (Text.byteLength past.text) = past.bytes := by
    rw [h.styles, hbytes, ← Styled.length_bytes, List.take_left]
  let was := (buffer.styles.drop (Text.byteLength past.text)).take (Text.byteLength middle)
  have hstyles : buffer.styles = past.bytes ++
      (was ++ buffer.styles.drop (Text.byteLength (past.text ++ middle))) := by
    rw [← hkept, Text.byteLength_append, ← List.drop_drop, List.take_append_drop,
      List.take_append_drop]
  have hwas : was.length = Text.byteLength middle := by
    rw [Text.byteLength_append] at hlength
    simp only [was, List.length_take, List.length_drop, h.length, hlength]
    omega
  have hcapture :=
    Context.capture?_eq_around (isOrderly_ofLanguage language) hpast.symm htext hstyles
  have hslice : Text.slice? buffer.text (Text.byteLength past.text)
      (Text.byteLength (past.text ++ middle)) = some middle := by
    rw [htext, Text.byteLength_append, Text.slice?_eq]
  refine ⟨buffer.putAll (Text.byteLength past.text)
    (lexer.runs (Context.around past behind.text) (lexer.tokenizer.tokens middle)), ?_, rfl, ?_⟩
  · have hpos := Text.byteLength_pos hne
    rw [restyle?, Nat.min_eq_left (by omega), if_neg (by simp; omega), hslice,
      Text.byteLength_append, hcapture]
    rfl
  · rw [htake, ← Styled.length_bytes past, Buffer.styles_putAll hstyles, styles_runs,
      List.append_assoc]
    rw [styles_runs, hwas, hrange]

/-- The agreement reaches on behind what was styled again. -/
theorem Agrees.of_styles_eq {styled : Buffer} {offset stop : Nat} (h : lexer.Agrees buffer offset)
    (hstop : stop ≤ buffer.length) (htext : styled.text = buffer.text)
    (hstyles : styled.styles = (lexer.byteStyles buffer.text).take stop ++
      buffer.styles.drop stop) : lexer.Agrees styled stop := by
  have hlength : ((lexer.byteStyles buffer.text).take stop).length = stop := by
    rw [List.length_take, length_byteStyles]
    exact Nat.min_eq_left hstop
  constructor
  · have := h.length
    simp only [Buffer.length, htext, hstyles, List.length_append, hlength, List.length_drop]
      at this ⊢
    rw [Buffer.length] at hstop
    omega
  · rw [htext, hstyles, List.take_left' hlength]

/-- The same, for two boundaries that are given by their offsets. -/
theorem Agrees.restyle_boundaries {start stop : Nat}
    (h : (ofLanguage language).Agrees buffer start)
    (hstart : start ∈ (ofLanguage language).tokenizer.boundaries buffer.text)
    (hstop : stop ∈ (ofLanguage language).tokenizer.boundaries buffer.text)
    (hle : start ≤ stop) :
    ∃ styled, (ofLanguage language).restyle? buffer start stop = some styled ∧
      styled.text = buffer.text ∧ (ofLanguage language).Agrees styled stop ∧
      styled.styles = ((ofLanguage language).byteStyles buffer.text).take stop ++
        buffer.styles.drop stop := by
  obtain ⟨front, back, htext, hfront, rfl⟩ := Tokenizer.mem_boundaries_iff.1 hstart
  obtain ⟨front', tail, htext', hmiddle, rfl⟩ := Tokenizer.mem_boundaries_iff.1 hstop
  obtain ⟨middle, rfl, rfl⟩ := Text.exists_between (htext.symm.trans htext') hle
  obtain ⟨styled, hstyled, hsame, hstyles⟩ := h.restyle htext hfront hmiddle
  have hbound : Text.byteLength (front ++ middle) ≤ buffer.length := by
    simp [Buffer.length, htext']
  exact ⟨styled, hstyled, hsame, h.of_styles_eq hbound hsame hstyles, hstyles⟩

/-- Style the pieces of a text between a start and some stops, one after the other. -/
def restyleThrough? (lexer : Lexer) (buffer : Buffer) (start : Nat) : List Nat → Option Buffer
  | [] => some buffer
  | stop :: stops =>
    (lexer.restyle? buffer start stop).bind (lexer.restyleThrough? · stop stops)

/-- Piece by piece, the agreement reaches up to the last stop. -/
theorem Agrees.restyleThrough {start : Nat} {stops : List Nat}
    (h : (ofLanguage language).Agrees buffer start)
    (hmem : ∀ stop ∈ start :: stops,
      stop ∈ (ofLanguage language).tokenizer.boundaries buffer.text)
    (hsorted : (start :: stops).Pairwise (· ≤ ·)) :
    ∃ styled, (ofLanguage language).restyleThrough? buffer start stops = some styled ∧
      styled.text = buffer.text ∧
      (ofLanguage language).Agrees styled ((start :: stops).getLast (List.cons_ne_nil _ _)) := by
  induction stops generalizing buffer start with
  | nil => exact ⟨buffer, rfl, rfl, h⟩
  | cons stop stops ih =>
      obtain ⟨hstart, hsorted⟩ := List.pairwise_cons.1 hsorted
      obtain ⟨next, hnext, htext, hagrees, -⟩ := h.restyle_boundaries
        (hmem start List.mem_cons_self) (hmem stop (by simp)) (hstart stop List.mem_cons_self)
      rw [← htext] at hmem
      obtain ⟨styled, hstyled, hsame, hlast⟩ := ih hagrees
        (fun later hin => hmem later (List.mem_cons_of_mem _ hin)) hsorted
      refine ⟨styled, ?_, hsame.trans htext, by simpa using hlast⟩
      rw [restyleThrough?, hnext, Option.bind_some, hstyled]

/--
Styling is independent of how the text is split. Where the styles in front of a boundary
are those of one pass, styling on to a later boundary gives those of the pass up to there
and leaves alone what is behind; and from any styles whatever, styling the whole text piece
by piece gives the styles of the pass.
-/
theorem restyle_split_independent (language : Language) (text : List Char)
    (styles : List Category) (cursor : Nat) (hlength : styles.length = Text.byteLength text) :
    (∀ start ∈ (ofLanguage language).tokenizer.boundaries text,
      ∀ stop ∈ (ofLanguage language).tokenizer.boundaries text, start ≤ stop →
      styles.take start = ((ofLanguage language).byteStyles text).take start →
      ∃ styled, (ofLanguage language).restyle? ⟨text, styles, cursor⟩ start stop = some styled ∧
        styled.text = text ∧
        styled.styles = ((ofLanguage language).byteStyles text).take stop ++ styles.drop stop) ∧
    ∀ stops : List Nat, (∀ stop ∈ stops, stop ∈ (ofLanguage language).tokenizer.boundaries text) →
      (0 :: stops).Pairwise (· ≤ ·) →
      (0 :: stops).getLast (List.cons_ne_nil _ _) = Text.byteLength text →
      ∃ styled, (ofLanguage language).restyleThrough? ⟨text, styles, cursor⟩ 0 stops = some styled ∧
        styled.text = text ∧ styled.styles = (ofLanguage language).byteStyles text := by
  constructor
  · intro start hstart stop hstop hle hagree
    have h : (ofLanguage language).Agrees ⟨text, styles, cursor⟩ start := ⟨hlength, hagree⟩
    obtain ⟨styled, hstyled, hsame, -, hstyles⟩ := h.restyle_boundaries hstart hstop hle
    exact ⟨styled, hstyled, hsame, hstyles⟩
  · intro stops hstops hsorted hlast
    have h : (ofLanguage language).Agrees ⟨text, styles, cursor⟩ 0 := ⟨hlength, rfl⟩
    have hmem : ∀ stop ∈ 0 :: stops, stop ∈ (ofLanguage language).tokenizer.boundaries text := by
      simpa using ⟨Tokenizer.zero_mem_boundaries _ _, hstops⟩
    obtain ⟨styled, hstyled, hsame, hagrees⟩ := h.restyleThrough hmem hsorted
    rw [hlast] at hagrees
    have hwhole : styled.length = Text.byteLength text := by rw [Buffer.length, hsame]
    rw [← hwhole] at hagrees
    exact ⟨styled, hstyled, hsame, hagrees.styles_eq.trans (by rw [hsame])⟩

/-- Behind a number sign that is styled as comment, the rest of the line becomes a comment. -/
theorem restyle_comment_from_middle : ∃ styled,
    (ofLanguage .python).restyle?
      ⟨['#', 'é', '\n', 'x'], [.comment, .string, .plain, .string, .string], 7⟩ 1 4 = some styled ∧
      styled.text = ['#', 'é', '\n', 'x'] ∧
      styled.styles = [.comment, .comment, .comment, .comment, .string] := by
  have hpass : (ofLanguage .python).byteStyles ['#', 'é', '\n', 'x'] =
      [.comment, .comment, .comment, .comment, .plain] := by decide +kernel
  have h := (restyle_split_independent .python ['#', 'é', '\n', 'x']
    [.comment, .string, .plain, .string, .string] 7 rfl).1
    1 (by decide +kernel) 4 (by decide +kernel) (by decide) (by rw [hpass]; rfl)
  rwa [hpass] at h

end Lexer

end EditorCore
