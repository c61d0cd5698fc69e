import EditorCore.Proofs.Language.Restyle
import EditorCore.Proofs.Token.Alignment

/-!
# Styling conserves lengths

A lexer gives one run to each token, as long as the token, whatever tokens it is given and
whatever it is told about their surroundings. The runs of a range therefore fill the range and
go nowhere else: styling a range leaves the text as it is, and all styles outside the range.
This needs no assumption on the lexer, nor on the styles that a buffer had before.
-/

namespace EditorCore

variable {buffer styled settled : Buffer} {lexer : Lexer} {start stop offset : Nat}

/-! ### Writing runs -/

namespace Buffer

/-- Two buffers have one text, and one style for each byte that is not between two offsets. -/
structure AgreesOutside (start stop : Nat) (buffer styled : Buffer) : Prop where
  text : styled.text = buffer.text
  length : styled.styles.length = buffer.styles.length
  styleAt? : ∀ i, i < start ∨ stop ≤ i → styled.styleAt? i = buffer.styleAt? i

theorem AgreesOutside.refl (start stop : Nat) (buffer : Buffer) :
    AgreesOutside start stop buffer buffer :=
  ⟨rfl, rfl, fun _ _ => rfl⟩

theorem AgreesOutside.trans (h : AgreesOutside start stop buffer styled)
    (hnext : AgreesOutside start stop styled settled) :
    AgreesOutside start stop buffer settled where
  text := hnext.text.trans h.text
  length := hnext.length.trans h.length
  styleAt? i hi := (hnext.styleAt? i hi).trans (h.styleAt? i hi)

theorem AgreesOutside.mono {first last : Nat} (h : AgreesOutside start stop buffer styled)
    (hfirst : first ≤ start) (hlast : stop ≤ last) : AgreesOutside first last buffer styled where
  text := h.text
  length := h.length
  styleAt? i hi := h.styleAt? i (by omega)

theorem length_putAll (buffer : Buffer) (offset : Nat) (runs : List Run) :
    (buffer.putAll offset runs).styles.length = buffer.styles.length := by
  simp only [putAll, List.length_append, List.length_take, List.length_drop]
  omega

/-- Runs that are written give their styles to the bytes from the offset on, if there are any. -/
theorem styleAt?_putAll (buffer : Buffer) (offset : Nat) (runs : List Run) (i : Nat) :
    (buffer.putAll offset runs).styleAt? i =
      if offset ≤ i ∧ i < offset + (Run.styles runs).length ∧ i < buffer.styles.length then
        (Run.styles runs)[i - offset]?
      else buffer.styleAt? i := by
  simp only [styleAt?, putAll]
  generalize hn : (Run.styles runs).length = n
  generalize hlength : buffer.styles.length = length
  by_cases hfront : i < min offset length
  · rw [List.append_assoc, List.getElem?_append_left (by simp; omega),
      List.getElem?_take_of_lt hfront, if_neg (by omega)]
  · rw [List.append_assoc, List.getElem?_append_right (by simp; omega), List.length_take,
      hlength, Nat.min_eq_left (Nat.min_le_right offset length)]
    by_cases hinside : i < offset + n ∧ i < length
    · have hmin : min offset length = offset := by omega
      rw [hmin, List.getElem?_append_left (by simp; omega),
        List.getElem?_take_of_lt (by omega), if_pos (by omega)]
    · rw [List.getElem?_append_right (by simp; omega), List.getElem?_drop, List.length_take, hn,
        if_neg (by omega)]
      by_cases hend : i < length
      · congr 1
        omega
      · rw [List.getElem?_eq_none (by omega), List.getElem?_eq_none (by omega)]

/-- To write one run is to write all runs of a list that has only this one. -/
theorem put_eq_putAll (buffer : Buffer) (run : Run) :
    buffer.put run = buffer.putAll buffer.cursor [run] := by
  have hstyles : Run.styles [run] = List.replicate run.length run.category := by
    simp [Run.styles]
  have hroom : min (buffer.cursor + run.length) buffer.styles.length -
      min buffer.cursor buffer.styles.length =
        min (buffer.styles.length - min buffer.cursor buffer.styles.length) run.length := by
    omega
  have hback : buffer.styles.drop (min (buffer.cursor + run.length) buffer.styles.length) =
      buffer.styles.drop (min buffer.cursor buffer.styles.length + run.length) := by
    rw [List.drop_eq_drop_iff]
    omega
  simp only [put, putAll, hstyles, List.take_replicate, List.length_replicate, hroom, hback]

/-- Runs can be written in two parts, the second from where the first ends. -/
theorem putAll_append (buffer : Buffer) (offset : Nat) (runs more : List Run) :
    buffer.putAll offset (runs ++ more) =
      (buffer.putAll offset runs).putAll (offset + (Run.styles runs).length) more := by
  have hstyles : Run.styles (runs ++ more) = Run.styles runs ++ Run.styles more := by
    simp [Run.styles]
  have hbytes : (buffer.putAll offset (runs ++ more)).styles =
      ((buffer.putAll offset runs).putAll (offset + (Run.styles runs).length) more).styles := by
    refine List.ext_getElem? fun i => ?_
    change styleAt? _ i = styleAt? _ i
    simp only [styleAt?_putAll, length_putAll, hstyles, List.length_append]
    generalize hn : (Run.styles runs).length = n
    by_cases hfirst : i < offset + n
    · have hlater : ¬ offset + n ≤ i := by omega
      simp only [hlater, false_and, if_false, hfirst, true_and]
      split
      · next hin => rw [if_pos (by omega), List.getElem?_append_left (by omega)]
      · next hout => rw [if_neg (by omega)]
    · simp only [hfirst, false_and, and_false, if_false]
      split
      · next hin =>
          rw [if_pos (by omega), List.getElem?_append_right (by omega), hn, Nat.sub_sub]
      · next hout => rw [if_neg (by omega)]
  have hcursor : offset + (Run.styles (runs ++ more)).length =
      offset + (Run.styles runs).length + (Run.styles more).length := by
    rw [hstyles, List.length_append, Nat.add_assoc]
  exact (Buffer.mk.injEq _ _ _ _ _ _).mpr ⟨rfl, hbytes, hcursor⟩

/-- Written runs change nothing outside the bytes that they are as long as. -/
theorem agreesOutside_putAll (buffer : Buffer) (offset : Nat) (runs : List Run) :
    AgreesOutside offset (offset + (Run.styles runs).length) buffer
      (buffer.putAll offset runs) where
  text := text_putAll buffer offset runs
  length := length_putAll buffer offset runs
  styleAt? i hi := by
    rw [styleAt?_putAll, if_neg (by omega)]

end Buffer

/-- All bytes of a token have the style of the token. -/
theorem Styled.getElem?_bytes (past later : Styled) {token : Token} {category : Category} {n : Nat}
    (hn : n < Text.byteLength token) :
    (past ++ (token, category) :: later).bytes[Text.byteLength past.text + n]? =
      some category := by
  rw [bytes_append, bytes_cons, List.getElem?_append_right (by simp),
    List.getElem?_append_left (by simpa using hn)]
  simp [hn]

namespace Lexer

/-! ### Runs and tokens -/

/-- One run for each token, in order, and as long as the token. -/
theorem map_length_runs (lexer : Lexer) (context : Context) (tokens : List Token) :
    (lexer.runs context tokens).map (·.length) = tokens.map Text.byteLength := by
  have hlength := lexer.length_styles context tokens
  calc (lexer.runs context tokens).map (·.length)
      = ((tokens.zip (lexer.styles context tokens)).map (·.1)).map Text.byteLength := by
        simp [runs_eq, List.zip, List.map_zipWith, Token.run]
    _ = tokens.map Text.byteLength := by
        rw [List.map_fst_zip (by omega)]

/-- The runs of the tokens of a text are as long as the text. -/
theorem length_styles_runs (lexer : Lexer) (context : Context) (text : List Char) :
    (Run.styles (lexer.runs context (lexer.tokenizer.tokens text))).length =
      Text.byteLength text := by
  rw [styles_runs, Styled.length_bytes, text_range]

/-! ### Styling a range -/

/-- Styling does nothing to an empty range, and else writes the runs of the range's tokens. -/
theorem restyle?_cases (h : lexer.restyle? buffer start stop = some styled) :
    min stop buffer.length ≤ start ∧ styled = buffer ∨
      ∃ context range, Text.slice? buffer.text start (min stop buffer.length) = some range ∧
        styled = buffer.putAll start (lexer.runs context (lexer.tokenizer.tokens range)) := by
  simp only [restyle?] at h
  split at h
  · next hle => exact .inl ⟨hle, (Option.some.inj h).symm⟩
  · obtain ⟨context, -, h⟩ := Option.bind_eq_some_iff.1 h
    obtain ⟨range, hrange, h⟩ := Option.bind_eq_some_iff.1 h
    exact .inr ⟨context, range, hrange, (Option.some.inj h).symm⟩

/-- Styling a range changes no style outside the range. -/
theorem agreesOutside_of_restyle? (h : lexer.restyle? buffer start stop = some styled) :
    buffer.AgreesOutside start (min stop buffer.length) styled := by
  rcases restyle?_cases h with ⟨-, rfl⟩ | ⟨context, range, hrange, rfl⟩
  · exact .refl _ _ _
  · have hlength := lexer.length_styles_runs context range
    obtain ⟨front, back, -, rfl, hstop⟩ := Text.slice?_eq_some_iff.1 hrange
    rw [Text.byteLength_append, ← hlength] at hstop
    rw [← hstop]
    exact buffer.agreesOutside_putAll _ _

/-- Styling does not change the text. -/
theorem text_of_restyle? (h : lexer.restyle? buffer start stop = some styled) :
    styled.text = buffer.text :=
  (agreesOutside_of_restyle? h).text

/-- Each token of a range that is styled comes out in one style. -/
theorem exists_category_of_restyle? {range : List Char} {token : Token}
    (h : lexer.restyle? buffer start stop = some styled)
    (hrange : Text.slice? buffer.text start (min stop buffer.length) = some range)
    (htoken : (offset, token) ∈ Tokenizer.placed start (lexer.tokenizer.tokens range)) :
    ∃ category, ∀ i, offset ≤ i → i < offset + Text.byteLength token →
      i < buffer.styles.length → styled.styleAt? i = some category := by
  obtain ⟨front, tail, htokens, rfl⟩ := (Tokenizer.mem_placed_pair_iff start _).1 htoken
  have hbytes : Text.byteLength range =
      Text.byteLength front.flatten + (Text.byteLength token + Text.byteLength tail.flatten) := by
    rw [← lexer.tokenizer.flatten_tokens range, htokens]
    simp
  rcases restyle?_cases h with ⟨hle, -⟩ | ⟨context, range', hrange', rfl⟩
  · -- an empty range has no bytes
    obtain ⟨before, back, -, hstart, hstop⟩ := Text.slice?_eq_some_iff.1 hrange
    rw [Text.byteLength_append] at hstop
    refine ⟨.plain, fun i hi hlast => ?_⟩
    omega
  · obtain rfl := Option.some.inj (hrange'.symm.trans hrange)
    obtain ⟨past, later, hrange, hpast, hlater⟩ :
        ∃ past later, lexer.range context range' = past ++ later ∧
          past.map (·.1) = front ∧ later.map (·.1) = token :: tail :=
      List.map_eq_append_iff.1 ((lexer.map_fst_range context range').trans htokens)
    obtain ⟨⟨word, category⟩, later, rfl, hword, -⟩ := List.map_eq_cons_iff.1 hlater
    obtain rfl : word = token := hword
    have hfront : Text.byteLength (Styled.text past) = Text.byteLength front.flatten := by
      rw [Styled.text, hpast]
    have hlength := lexer.length_styles_runs context range'
    refine ⟨category, fun i hfirst hlast hin => ?_⟩
    obtain ⟨n, hn⟩ : ∃ n, i - start = Text.byteLength (Styled.text past) + n :=
      Nat.exists_eq_add_of_le (by omega)
    rw [Buffer.styleAt?_putAll, if_pos (by omega), Lexer.styles_runs, hrange, hn]
    exact Styled.getElem?_bytes past later (by omega)

/--
Whatever a lexer is given, it has one run for each token, in order and as long as the token.
When a range of a buffer can be styled, the text stays as it is, and so do all styles outside
the range; in the range each token comes out in one style.
-/
theorem styling_conserves (lexer : Lexer) :
    (∀ (context : Context) (tokens : List Token),
      (lexer.runs context tokens).map (·.length) = tokens.map Text.byteLength) ∧
    ∀ (buffer styled : Buffer) (start stop : Nat),
      lexer.restyle? buffer start stop = some styled →
      styled.text = buffer.text ∧ styled.styles.length = buffer.styles.length ∧
      (∀ i, i < start ∨ min stop buffer.length ≤ i → styled.styleAt? i = buffer.styleAt? i) ∧
      ∀ range, Text.slice? buffer.text start (min stop buffer.length) = some range →
        ∀ offset token, (offset, token) ∈ Tokenizer.placed start (lexer.tokenizer.tokens range) →
          ∃ category, ∀ i, offset ≤ i → i < offset + Text.byteLength token →
            i < buffer.styles.length → styled.styleAt? i = some category := by
  refine ⟨lexer.map_length_runs, ?_⟩
  intro buffer styled start stop h
  obtain ⟨htext, hlength, hstyles⟩ := agreesOutside_of_restyle? h
  refine ⟨htext, hlength, hstyles, ?_⟩
  intro range hrange offset token htoken
  exact exists_category_of_restyle? h hrange htoken

/-- A declaration in the middle of what was a comment: the byte in front of it stays one. -/
theorem styling_conserves_declaration : ∃ styled,
    (ofLanguage .python).restyle?
      ⟨['x', ' ', 'd', 'e', 'f', ' ', 'f'], List.replicate 7 .comment, 0⟩ 2 7 = some styled ∧
    styled.text = ['x', ' ', 'd', 'e', 'f', ' ', 'f'] ∧ styled.styleAt? 1 = some .comment ∧
    ∃ category, ∀ i, 2 ≤ i → i < 5 → styled.styleAt? i = some category := by
  obtain ⟨styled, hstyled⟩ : ∃ styled, (ofLanguage .python).restyle?
      ⟨['x', ' ', 'd', 'e', 'f', ' ', 'f'], List.replicate 7 .comment, 0⟩ 2 7 = some styled :=
    Option.isSome_iff_exists.1 (by decide +kernel)
  obtain ⟨htext, -, hstyles, htokens⟩ := (styling_conserves _).2 _ _ _ _ hstyled
  obtain ⟨category, hcategory⟩ := htokens ['d', 'e', 'f', ' ', 'f'] (by decide +kernel)
    2 ['d', 'e', 'f'] (by decide +kernel)
  refine ⟨styled, hstyled, htext, hstyles 1 (.inl (by decide)), category, ?_⟩
  intro i hfirst hlast
  exact hcategory i hfirst hlast (by simp; omega)

end Lexer

end EditorCore
