import EditorCore.Proofs.Document.Characters
import EditorCore.Proofs.Language.Slices

/-!
# What an edit reports

An edit answers with the range of bytes that it styled. Whatever the lexer, all that the edit
changed lies in that range: the styles in front of it are as they were, and those behind it are
the styles of the same characters before the edit. Each range that an edit styles can be
styled, since every character of the text has one style: the open string that a range starts
in begins with a character.
-/

namespace EditorCore

variable {t : Tokenizer} {lexer : Lexer} {buffer edited : Buffer}
  {before after front range back line inserted : List Char}

namespace Tokenizer

/-- The sides of a token that a place cuts in two are runs of one class. -/
theorem exists_kind_of_tokenAround? {left right : Token}
    (h : t.tokenAround? before after = some (left, right)) :
    ∃ kind, left = t.runBefore kind before ∧ right = t.runAfter kind after := by
  simp only [tokenAround?] at h
  split at h
  · next last next _ _ =>
      refine ⟨t.classOf last, ?_⟩
      split at h
      · simp at h
      · split at h
        · split at h
          · simp at h
          · simpa [eq_comm] using h
        · simpa [eq_comm] using h
  · simp at h

/-- What is found to the left of a place is an end of the text before it. -/
theorem exists_leftOf (t : Tokenizer) (before after : List Char) :
    ∃ front, before = front ++ t.leftOf before after := by
  rw [leftOf]
  cases haround : t.tokenAround? before after with
  | none => exact ⟨before, by simp⟩
  | some sides =>
      obtain ⟨left, right⟩ := sides
      obtain ⟨kind, rfl, -⟩ := exists_kind_of_tokenAround? haround
      obtain ⟨front, hfront⟩ := t.runBefore_suffix kind before
      exact ⟨front, hfront.symm⟩

/-- A place is aligned with a place in front of it. -/
theorem exists_alignStart? (t : Tokenizer) (before after : List Char) : ∃ front left,
    before = front ++ left ∧
      t.alignStart? (before ++ after) (Text.byteLength before) = some (Text.byteLength front) := by
  obtain ⟨front, hfront⟩ := t.exists_leftOf before after
  refine ⟨front, _, hfront, ?_⟩
  have hlength := congrArg Text.byteLength hfront
  rw [Text.byteLength_append] at hlength
  rw [alignStart?_byteLength, Option.some.injEq]
  omega

end Tokenizer

namespace Buffer

/-! ### Ranges that can be styled -/

/-- Every byte has a style. -/
theorem IsWhole.length (h : buffer.IsWhole) : buffer.styles.length = buffer.length := by
  obtain ⟨characters, htext, hstyles⟩ := h
  rw [hstyles, StyledChars.length_bytes, Buffer.length, htext]

theorem byteLength_le_length (htext : buffer.text = front ++ back) :
    Text.byteLength front ≤ buffer.length := by
  rw [Buffer.length, htext, Text.byteLength_append]
  exact Nat.le_add_right _ _

/-- The open string that a place lies in begins at a place. -/
theorem IsWhole.exists_openQuote (h : buffer.IsWhole) (htext : buffer.text = front ++ back) :
    ∃ quote, Context.openQuote? buffer (Text.byteLength front) = some quote := by
  obtain ⟨characters, hcharacters, hstyles⟩ := h
  obtain ⟨left, right, rfl, rfl, rfl⟩ := StyledChars.exists_append (hcharacters.symm.trans htext)
  obtain ⟨past, rfl, hpast⟩ := Styled.exists_alternating left
  rw [StyledChars.bytes_append, Styled.bytes_characters] at hstyles
  rw [Styled.text_characters] at htext ⊢
  exact ⟨_, Context.openQuote?_eq hpast.ne_nil htext hstyles⟩

/-- Any range between two places can be styled. -/
theorem IsWhole.exists_restyle (h : buffer.IsWhole) (lexer : Lexer)
    (htext : buffer.text = front ++ (range ++ back)) :
    ∃ styled, lexer.restyle? buffer (Text.byteLength front) (Text.byteLength (front ++ range)) =
      some styled := by
  obtain ⟨quote, hquote⟩ := h.exists_openQuote htext
  have hend : buffer.text = (front ++ range) ++ back := by
    rw [htext, List.append_assoc]
  have hstart : Text.splitAt? buffer.text (Text.byteLength front) =
      some (front, range ++ back) := by
    rw [htext, Text.splitAt?_byteLength]
  have hstop : Text.splitAt? buffer.text (Text.byteLength (front ++ range)) =
      some (front ++ range, back) := by
    rw [hend, Text.splitAt?_byteLength]
  have hrange : Text.slice? buffer.text (Text.byteLength front)
      (Text.byteLength (front ++ range)) = some range :=
    Text.slice?_eq_some_iff.2 ⟨front, back, htext, rfl, rfl⟩
  have hmin : min (Text.byteLength (front ++ range)) buffer.length =
      Text.byteLength (front ++ range) :=
    Nat.min_eq_left (byteLength_le_length hend)
  simp only [Lexer.restyle?, hmin]
  split
  · exact ⟨buffer, rfl⟩
  · simp only [Context.capture?, hstart, hstop, hquote, hrange, Option.bind_eq_bind,
      Option.bind_some, Option.pure_def]
    exact ⟨_, rfl⟩

/-- The next line can be styled, and what is left behind it is still behind it. -/
theorem IsWhole.exists_restyle_line (h : buffer.IsWhole) (lexer : Lexer)
    (htext : buffer.text = before ++ after)
    (hline : line = lexer.tokenizer.wholeLine before after) :
    ∃ styled, lexer.restyle? buffer (Text.byteLength before)
        (Text.byteLength before + Text.byteLength line) = some styled ∧
      styled.text = before ++ line ++ after.drop line.length ∧ styled.IsWhole ∧
      buffer.AgreesOutside (Text.byteLength before) (Text.byteLength (before ++ line)) styled := by
  obtain ⟨rest, hrest, -⟩ := lexer.tokenizer.exists_wholeLine before after
  rw [← hline] at hrest
  rw [hrest] at htext
  obtain ⟨styled, hstyled⟩ := h.exists_restyle lexer htext
  have hagrees := Lexer.agreesOutside_of_restyle? hstyled
  rw [Text.byteLength_append] at hstyled
  refine ⟨styled, hstyled, ?_, h.restyle? hstyled, hagrees.mono le_rfl (Nat.min_le_left _ _)⟩
  rw [hagrees.text, htext, hrest, List.drop_left, List.append_assoc]

/-- The lines behind a place can be styled, and nothing in front of the place is changed. -/
theorem IsWhole.exists_carryOn (h : buffer.IsWhole) (lexer : Lexer)
    (htext : buffer.text = before ++ after) :
    ∃ settled last, lexer.carryOn? buffer before after = some (settled, last) ∧
      Text.byteLength before ≤ last ∧ last ≤ buffer.length ∧
      buffer.AgreesOutside (Text.byteLength before) last settled := by
  fun_induction Lexer.carryOn? lexer buffer before after with
  | case1 buffer before =>
      refine ⟨buffer, _, rfl, le_rfl, ?_, .refl _ _ _⟩
      rw [Buffer.length, htext, List.append_nil]
  | case2 buffer before c cs line start stop hnone =>
      obtain ⟨styled, hstyled, -⟩ := h.exists_restyle_line lexer htext (rfl : line = _)
      exact absurd (hnone.symm.trans hstyled) (by simp)
  | case3 buffer before c cs line start stop styled hstyled was is hdone =>
      obtain ⟨next, hnext, hsame, -, hagrees⟩ :=
        h.exists_restyle_line lexer htext (rfl : line = _)
      obtain rfl := Option.some.inj (hstyled.symm.trans hnext)
      rw [Text.byteLength_append] at hagrees
      refine ⟨styled, stop, rfl, Nat.le_add_right _ _, ?_, hagrees⟩
      have hlength := congrArg Text.byteLength (hagrees.text.symm.trans hsame)
      simp only [Text.byteLength_append] at hlength
      rw [Buffer.length, hlength]
      omega
  | case4 buffer before c cs line start stop styled hstyled was is hdone ih =>
      obtain ⟨next, hnext, hsame, hwhole, hagrees⟩ :=
        h.exists_restyle_line lexer htext (rfl : line = _)
      obtain rfl := Option.some.inj (hstyled.symm.trans hnext)
      obtain ⟨settled, last, hsettled, hle, hlast, hrest⟩ := ih hwhole hsame
      have hfront : Text.byteLength before ≤ Text.byteLength (before ++ line) := by
        rw [Text.byteLength_append]
        exact Nat.le_add_right _ _
      refine ⟨settled, last, hsettled, hfront.trans hle, ?_, ?_⟩
      · rw [Buffer.length, ← hagrees.text]
        exact hlast
      · exact (hagrees.mono le_rfl hle).trans (hrest.mono hfront le_rfl)

/--
Behind an edit, the damaged lines can be styled from the token on that the first of them begins
in, and then the lines behind them; nothing outside the range that is styled is changed.
-/
theorem IsWhole.exists_settled (h : buffer.IsWhole) (lexer : Lexer)
    (htext : buffer.text = before ++ (inserted ++ after))
    (hline : line = lexer.tokenizer.wholeLine (before ++ inserted) after) :
    ∃ first styled settled last, lexer.tokenizer.alignStart? buffer.text
        (Text.byteLength before - Text.byteLength (Text.lastLine before)) = some first ∧
      lexer.restyle? buffer first (Text.byteLength (before ++ inserted ++ line)) = some styled ∧
      lexer.carryOn? styled (before ++ inserted ++ line) (after.drop line.length) =
        some (settled, last) ∧
      first ≤ Text.byteLength before ∧ Text.byteLength (before ++ inserted) ≤ last ∧
      last ≤ buffer.length ∧ buffer.AgreesOutside first last settled := by
  obtain ⟨front, hbefore, -⟩ := Text.exists_lastLine before
  generalize Text.lastLine before = last at hbefore ⊢
  subst hbefore
  rw [Text.byteLength_append, Nat.add_sub_cancel]
  obtain ⟨core, left, hcore, hfirst⟩ :=
    lexer.tokenizer.exists_alignStart? front (last ++ (inserted ++ after))
  obtain ⟨rest, hafter, -⟩ := lexer.tokenizer.exists_wholeLine (front ++ last ++ inserted) after
  rw [← hline] at hafter
  have hrest : after.drop line.length = rest := by rw [hafter, List.drop_left]
  have hdamaged : front ++ last ++ inserted ++ line =
      core ++ (left ++ (last ++ (inserted ++ line))) := by
    simp [hcore]
  have hwhole : buffer.text = core ++ ((left ++ (last ++ (inserted ++ line))) ++ rest) := by
    rw [htext, hafter, hcore]
    simp
  obtain ⟨styled, hstyled⟩ := h.exists_restyle lexer hwhole
  rw [← hdamaged] at hstyled
  have hagrees := Lexer.agreesOutside_of_restyle? hstyled
  have hstext : styled.text = front ++ last ++ inserted ++ line ++ rest := by
    rw [hagrees.text, hwhole, ← List.append_assoc, ← hdamaged]
  obtain ⟨settled, stop, hsettled, hle, hstop, hlines⟩ :=
    (h.restyle? hstyled).exists_carryOn lexer hstext
  have hlength : styled.length = buffer.length := by
    rw [Buffer.length, Buffer.length, hagrees.text]
  have hfront : Text.byteLength core ≤ Text.byteLength front := by
    rw [hcore, Text.byteLength_append]
    exact Nat.le_add_right _ _
  refine ⟨_, styled, settled, stop, ?_, hstyled, ?_, ?_, ?_, hlength ▸ hstop, ?_⟩
  · rw [htext, List.append_assoc]
    exact hfirst
  · rw [hrest]
    exact hsettled
  · omega
  · simp only [Text.byteLength_append] at hle ⊢
    omega
  · apply (hagrees.mono le_rfl ((Nat.min_le_left _ _).trans hle)).trans
    apply hlines.mono _ le_rfl
    simp only [Text.byteLength_append]
    omega

end Buffer

namespace Document

variable {document : Document} {removed : List Char}

/-! ### Bytes that are moved -/

/-- Bytes behind those that are replaced keep their styles, each of them at its new offset. -/
theorem styleAt?_of_spliced {styles spliced : List Category} {start stop count i : Nat}
    (hle : start ≤ stop) (hstop : stop ≤ styles.length)
    (h : spliced = styles.take start ++ List.replicate count .plain ++ styles.drop stop) :
    (i < start → spliced[i]? = styles[i]?) ∧
      (start + count ≤ i → spliced[i]? = styles[i - count + (stop - start)]?) := by
  subst h
  constructor
  · intro hi
    rw [List.append_assoc, List.getElem?_append_left (by simp; omega),
      List.getElem?_take_of_lt hi]
  · intro hi
    rw [List.getElem?_append_right (by simp; omega), List.getElem?_drop]
    congr 1
    simp
    omega

/-- An edit is the row of its steps. -/
theorem replace?_eq_of_settled {styled settled : Buffer} {first last : Nat}
    (htext : document.text = before ++ (removed ++ after))
    (hedited : document.buffer.replace? (Text.byteLength before)
      (Text.byteLength (before ++ removed)) inserted = some edited)
    (hline : line = document.lexer.tokenizer.wholeLine (before ++ inserted) after)
    (hfirst : document.lexer.tokenizer.alignStart? edited.text
      (Text.byteLength before - Text.byteLength (Text.lastLine before)) = some first)
    (hstyled : document.lexer.restyle? edited first
      (Text.byteLength (before ++ inserted ++ line)) = some styled)
    (hsettled : document.lexer.carryOn? styled (before ++ inserted ++ line)
      (after.drop line.length) = some (settled, last)) :
    document.replace? (Text.byteLength before) (Text.byteLength (before ++ removed)) inserted =
      some ({ document with buffer := settled, modified := true }, first, last) := by
  have hetext : edited.text = before ++ (inserted ++ after) := by
    rw [Buffer.replace?_eq htext] at hedited
    rw [← Option.some.inj hedited, List.append_assoc]
  have hsplit : Text.splitAt? edited.text (Text.byteLength before) =
      some (before, inserted ++ after) := by
    rw [hetext, Text.splitAt?_byteLength]
  have hleft : edited.text.drop (before ++ inserted ++ line).length = after.drop line.length := by
    rw [hetext, ← List.append_assoc, List.length_append, ← List.drop_drop, List.drop_left]
  rw [replace?, hedited]
  simp only [Option.bind_eq_bind, Option.bind_some, hsplit, hfirst, List.drop_left, ← hline,
    hstyled, hleft, hsettled]
  rfl

/-- A range between two places can be replaced, and nothing else is changed than is reported. -/
theorem exists_replace?_of_isWhole (h : document.buffer.IsWhole)
    (htext : document.text = before ++ (removed ++ after)) (inserted : List Char) :
    ∃ next first last, document.replace? (Text.byteLength before)
        (Text.byteLength (before ++ removed)) inserted = some (next, first, last) ∧
      first ≤ Text.byteLength before ∧ Text.byteLength (before ++ inserted) ≤ last ∧
      last ≤ next.buffer.length ∧ next.text = before ++ (inserted ++ after) ∧
      (∀ i, i < first → next.buffer.styleAt? i = document.buffer.styleAt? i) ∧
      ∀ i, last ≤ i → next.buffer.styleAt? i = document.buffer.styleAt?
        (i - Text.byteLength inserted + Text.byteLength removed) := by
  have hedited := Buffer.replace?_eq htext inserted
  generalize hbuffer : Buffer.mk _ _ _ = edited at hedited
  have hetext : edited.text = before ++ (inserted ++ after) := by
    rw [← hbuffer, List.append_assoc]
  obtain ⟨first, styled, settled, last, hfirst, hstyled, hsettled, hle, hlast, hend, hagrees⟩ :=
    (h.replace? hedited).exists_settled document.lexer hetext rfl
  have hbound : Text.byteLength (before ++ removed) ≤ document.buffer.styles.length := by
    rw [h.length]
    exact Buffer.byteLength_le_length (htext.trans (List.append_assoc _ _ _).symm)
  have hrange : Text.byteLength before ≤ Text.byteLength (before ++ removed) := by simp
  have hmoved := fun i => styleAt?_of_spliced (i := i) hrange hbound
    (congrArg Buffer.styles hbuffer).symm
  refine ⟨{ document with buffer := settled, modified := true }, first, last,
    replace?_eq_of_settled htext hedited rfl hfirst hstyled hsettled, hle, hlast, ?_,
    hagrees.text.trans hetext, ?_, ?_⟩
  · rw [Buffer.length, hagrees.text]
    exact hend
  · intro i hi
    rw [hagrees.styleAt? i (.inl hi)]
    exact (hmoved i).1 (by omega)
  · intro i hi
    rw [hagrees.styleAt? i (.inr hi)]
    rw [Text.byteLength_append] at hlast
    have hback := (hmoved i).2 (by omega)
    rwa [Text.byteLength_append, Nat.add_sub_cancel_left] at hback

/--
Whatever the lexer and whatever was done with a document before: a range between two places can
be replaced, and the range of bytes that is reported reaches from the start of the edit or from
in front of it to the end of what came in or on behind it. The text is the old one with the
range replaced; each byte in front of the reported range has the style that it had, and so has
each byte behind it, where the same byte was before the edit.
-/
theorem arises_replace_reports (h : Arises document) {start stop : Nat} (inserted : List Char)
    (hle : start ≤ stop) (hstart : start ∈ Text.places document.text)
    (hstop : stop ∈ Text.places document.text) :
    ∃ next first last, document.replace? start stop inserted = some (next, first, last) ∧
      first ≤ start ∧ start + Text.byteLength inserted ≤ last ∧ last ≤ next.buffer.length ∧
      (∃ before removed after, document.text = before ++ (removed ++ after) ∧
        Text.byteLength before = start ∧ Text.byteLength (before ++ removed) = stop ∧
        next.text = before ++ (inserted ++ after)) ∧
      (∀ i, i < first → next.buffer.styleAt? i = document.buffer.styleAt? i) ∧
      ∀ i, last ≤ i → next.buffer.styleAt? i =
        document.buffer.styleAt? (i - Text.byteLength inserted + (stop - start)) := by
  obtain ⟨before, removed, after, htext, rfl, rfl⟩ := Text.exists_range hle hstart hstop
  obtain ⟨next, first, last, hnext, hfirst, hlast, hend, hnew, hfront, hback⟩ :=
    exists_replace?_of_isWhole h.isWhole htext inserted
  rw [Text.byteLength_append] at hlast
  refine ⟨next, first, last, hnext, hfirst, hlast, hend,
    ⟨before, removed, after, htext, rfl, rfl, hnew⟩, hfront, ?_⟩
  intro i hi
  rw [hback i hi, Text.byteLength_append, Nat.add_sub_cancel_left]

/--
A lead may be a word character. The first of three lines becomes a comment, the second comes out
as it was, and the third is neither styled nor reported.
-/
theorem arises_replace_reports_lead : ∃ next,
    (ofText ['x', '\n', '2', '\n', '3']
      (.program { Python.grammar with commentLeads := [⟨'1', 1⟩] })).replace? 0 1 ['1'] =
        some (next, 0, 4) ∧
    next.text = ['1', '\n', '2', '\n', '3'] ∧ next.buffer.styleAt? 4 = some .number := by
  obtain ⟨next, first, last, hnext, -, -, -, -, -, hback⟩ :=
    arises_replace_reports (.ofText ['x', '\n', '2', '\n', '3']
      (.program { Python.grammar with commentLeads := [⟨'1', 1⟩] })) ['1']
      (Nat.zero_le 1) (by decide +kernel) (by decide +kernel)
  have hanswer : ((ofText ['x', '\n', '2', '\n', '3']
      (.program { Python.grammar with commentLeads := [⟨'1', 1⟩] })).replace? 0 1 ['1']).map
        (fun (next, range) => (next.text, range)) =
      some (['1', '\n', '2', '\n', '3'], 0, 4) := by decide +kernel
  rw [hnext, Option.map_some, Option.some.injEq, Prod.mk.injEq, Prod.mk.injEq] at hanswer
  obtain ⟨htext, rfl, rfl⟩ := hanswer
  refine ⟨next, hnext, htext, (hback 4 le_rfl).trans ?_⟩
  decide +kernel

end Document

end EditorCore
