import EditorCore.Document.Edit
import EditorCore.Proofs.Language.Restyle
import EditorCore.Proofs.Language.Stability

/-!
# Editing and styling

After an edit, the lines are styled one by one from the damaged one on, and the loop stops
as soon as a line settles. The invariant of the loop is that the styles up to the current
line are those of one pass over the new text, and those behind it still are those of one
pass over the old text.
-/

namespace EditorCore

variable {t : Tokenizer} {text before after : List Char}

namespace Text

/-- The last line of a text is behind its last line break. -/
theorem exists_lastLine (text : List Char) : ∃ front, text = front ++ lastLine text ∧
    ∀ c ∈ front.getLast?, isLineBreak c = true := by
  refine ⟨text.rdropWhile (!isLineBreak ·), List.rdropWhile_append_rtakeWhile.symm, fun c hc => ?_⟩
  obtain ⟨hne, rfl⟩ := List.mem_getLast?_eq_getLast hc
  simpa using List.rdropWhile_last_not (!isLineBreak ·) text hne

/-- The first line of a text ends with a line break, unless it is all of the text. -/
theorem exists_firstLine (text : List Char) : ∃ more, text = firstLine text ++ more ∧
    (more ≠ [] → ∃ c ∈ (firstLine text).getLast?, isLineBreak c = true) := by
  induction text with
  | nil => exact ⟨[], rfl, by simp⟩
  | cons c cs ih =>
      rw [firstLine]
      split
      · next hbreak => exact ⟨cs, rfl, fun _ => ⟨c, rfl, hbreak⟩⟩
      · obtain ⟨more, hmore, hlast⟩ := ih
        refine ⟨more, by rw [List.cons_append, ← hmore], fun hne => ?_⟩
        obtain ⟨d, hd, hbreak⟩ := hlast hne
        refine ⟨d, ?_, hbreak⟩
        rw [Option.mem_def] at hd ⊢
        rw [List.getLast?_cons, hd]
        rfl

end Text

namespace Tokenizer

/-- Behind a blank, the rest of a token is the blanks that come next. -/
theorem rightOf_of_isBlank (hlast : ∃ c ∈ before.getLast?, Text.isBlank c = true) :
    t.rightOf before after = after.takeWhile Text.isBlank := by
  obtain ⟨last, hlast, hblank⟩ := hlast
  have hclass : t.classOf last = .blank := classOf_eq_blank_iff.2 hblank
  cases after with
  | nil => simp [rightOf, tokenAround?]
  | cons c cs =>
      simp only [rightOf, tokenAround?, Option.mem_def.1 hlast, List.head?_cons, hclass]
      cases hc : Text.isBlank c with
      | true =>
          have hnext : t.classOf c = .blank := classOf_eq_blank_iff.2 hc
          simp [hnext, runAfter_blank]
      | false =>
          have hnext : t.classOf c ≠ .blank := by
            rw [ne_eq, classOf_eq_blank_iff, hc]
            simp
          simp [Ne.symm hnext, hc]

theorem isBlank_of_append {front line : List Char}
    (hline : ∃ c ∈ line.getLast?, Text.isBlank c = true) :
    ∀ c ∈ (front ++ line).getLast?, Text.isBlank c = true := by
  obtain ⟨d, hd, hblank⟩ := hline
  intro c hc
  rw [List.getLast?_append, Option.mem_def.1 hd, Option.some_or] at hc
  rwa [← Option.some.inj hc]

/-- A text can be cut where a line ends with a blank and the text behind starts with none. -/
theorem cuts_behind_line (ht : t.IsOrderly) (front : List Char) {line rest : List Char}
    (hline : rest ≠ [] → ∃ c ∈ line.getLast?, Text.isBlank c = true)
    (hrest : ∀ c ∈ rest.head?, Text.isBlank c = false) : t.Cuts (front ++ line) rest := by
  rcases eq_or_ne rest [] with rfl | hne
  · exact t.cuts_nil_right _
  · exact cuts_of_isBlank ht (isBlank_of_append (hline hne)) hrest

/-- A whole line ends with a blank, and the text behind it starts with none. -/
theorem exists_wholeLine (t : Tokenizer) (before after : List Char) :
    ∃ rest, after = t.wholeLine before after ++ rest ∧
      (rest ≠ [] → ∃ c ∈ (t.wholeLine before after).getLast?, Text.isBlank c = true) ∧
      ∀ c ∈ rest.head?, Text.isBlank c = false := by
  obtain ⟨more, hmore, hlast⟩ := Text.exists_firstLine after
  have hdrop : after.drop (Text.firstLine after).length = more := by
    have := congrArg (List.drop (Text.firstLine after).length) hmore
    rwa [List.drop_left] at this
  rcases eq_or_ne more [] with rfl | hne
  · have hwhole : t.wholeLine before after = Text.firstLine after := by
      simp [wholeLine, hdrop, rightOf, tokenAround?]
    exact ⟨[], by rw [hwhole, ← hmore], by simp, by simp⟩
  obtain ⟨c, hc, hbreak⟩ := hlast hne
  have hblank := Text.isBlank_of_isLineBreak hbreak
  have hright : t.rightOf (before ++ Text.firstLine after) more = more.takeWhile Text.isBlank :=
    rightOf_of_isBlank ⟨c, by simp [Option.mem_def.1 hc], hblank⟩
  have hwhole : t.wholeLine before after = Text.firstLine after ++ more.takeWhile Text.isBlank := by
    rw [wholeLine, hdrop, hright]
  rw [hwhole]
  refine ⟨more.dropWhile Text.isBlank, ?_, fun _ => ?_, Text.isBlank_head?_dropWhile more⟩
  · rw [List.append_assoc, List.takeWhile_append_dropWhile, ← hmore]
  · rcases (more.takeWhile Text.isBlank).eq_nil_or_concat' with hnil | ⟨front, d, hback⟩
    · exact ⟨c, by rw [hnil, List.append_nil]; exact hc, hblank⟩
    · have hd : d ∈ more.takeWhile Text.isBlank := by simp [hback]
      exact ⟨d, by simp [hback], List.mem_takeWhile_imp hd⟩

end Tokenizer

namespace Lexer

variable {language : Language} {lexer : Lexer} {buffer styled : Buffer}
  {prior line rest : List Char}

/--
The state of the loop, where `prior` was the text in front of `after` before the edit: the
styles in front of `after` are those of the new text, the ones behind still those of the old.
-/
structure Settling (lexer : Lexer) (buffer : Buffer) (prior before after : List Char) : Prop where
  text : buffer.text = before ++ after
  styles : buffer.styles = (lexer.byteStyles (before ++ after)).take (Text.byteLength before) ++
    (lexer.byteStyles (prior ++ after)).drop (Text.byteLength prior)
  /-- What is left starts behind a blank, before the edit as well as after it. -/
  blank : after ≠ [] → (∀ c ∈ prior.getLast?, Text.isBlank c = true) ∧
    ∀ c ∈ before.getLast?, Text.isBlank c = true
  word : ∀ c ∈ after.head?, Text.isBlank c = false

namespace Settling

theorem cuts (ht : t.IsOrderly) (h : lexer.Settling buffer prior before after) :
    t.Cuts prior after ∧ t.Cuts before after := by
  rcases eq_or_ne after [] with rfl | hne
  · exact ⟨t.cuts_nil_right prior, t.cuts_nil_right before⟩
  · obtain ⟨hprior, hbefore⟩ := h.blank hne
    exact ⟨Tokenizer.cuts_of_isBlank ht hprior h.word, Tokenizer.cuts_of_isBlank ht hbefore h.word⟩

theorem agrees (h : lexer.Settling buffer prior before after) :
    lexer.Agrees buffer (Text.byteLength before) where
  length := by
    simp [h.styles, h.text, Buffer.length]
  styles := by
    rw [h.styles, h.text, List.take_left' (by simp)]

/-- What is behind the start of what is left are styles of the old text. -/
theorem drop_styles (h : lexer.Settling buffer prior before after) (line : List Char) :
    buffer.styles.drop (Text.byteLength (before ++ line)) =
      (lexer.byteStyles (prior ++ after)).drop (Text.byteLength (prior ++ line)) := by
  have hlength : ((lexer.byteStyles (before ++ after)).take (Text.byteLength before)).length =
      Text.byteLength before := by simp
  rw [h.styles, Text.byteLength_append, Text.byteLength_append, ← List.drop_drop,
    List.drop_left' hlength, List.drop_drop]

/-- When nothing is left, the whole text is styled. -/
theorem styles_eq (h : lexer.Settling buffer prior before []) :
    buffer.styles = lexer.byteStyles buffer.text := by
  have hstyles := h.styles
  rw [List.append_nil, List.append_nil] at hstyles
  rw [hstyles, h.text, List.append_nil, ← length_byteStyles lexer, List.take_length,
    ← length_byteStyles lexer, List.drop_length, List.append_nil]

/-- One line further. -/
theorem step (h : (ofLanguage language).Settling buffer prior before (line ++ rest))
    (hline : rest ≠ [] → ∃ c ∈ line.getLast?, Text.isBlank c = true)
    (hrest : ∀ c ∈ rest.head?, Text.isBlank c = false) :
    ∃ styled, (ofLanguage language).restyle? buffer (Text.byteLength before)
        (Text.byteLength (before ++ line)) = some styled ∧ styled.text = buffer.text ∧
      (ofLanguage language).Settling styled (prior ++ line) (before ++ line) rest := by
  have ht := isOrderly_ofLanguage language
  obtain ⟨styled, hstyled, hsame, hstyles⟩ := h.agrees.restyle h.text (h.cuts ht).2
    (Tokenizer.cuts_behind_line ht before hline hrest)
  refine ⟨styled, hstyled, hsame, ?_, ?_, fun hne => ⟨Tokenizer.isBlank_of_append (hline hne),
    Tokenizer.isBlank_of_append (hline hne)⟩, hrest⟩
  · rw [hsame, h.text, List.append_assoc]
  · rw [hstyles, h.drop_styles, h.text, List.append_assoc, List.append_assoc]

/-- Once a line has settled, so has everything behind it. -/
theorem styles_eq_of_settled (h : (ofLanguage language).Settling buffer prior before (line ++ rest))
    (hnext : (ofLanguage language).Settling styled (prior ++ line) (before ++ line) rest)
    (hne : line ≠ [])
    (hsame : (styled.styles.drop (Text.byteLength before)).take (Text.byteLength line) =
      (buffer.styles.drop (Text.byteLength before)).take (Text.byteLength line))
    (hclosed : styled.styleAt? (Text.byteLength (before ++ line) - 1) ≠ some .string) :
    styled.styles = (ofLanguage language).byteStyles styled.text := by
  have ht := isOrderly_ofLanguage language
  let now := (ofLanguage language).byteStyles (before ++ (line ++ rest))
  let was := (ofLanguage language).byteStyles (prior ++ (line ++ rest))
  have htake : styled.styles.take (Text.byteLength (before ++ line)) =
      now.take (Text.byteLength (before ++ line)) := by
    rw [hnext.agrees.styles, hnext.text, List.append_assoc]
  have hmiddle : ∀ styles : List Category,
      (styles.drop (Text.byteLength before)).take (Text.byteLength line) =
        (styles.take (Text.byteLength (before ++ line))).drop (Text.byteLength before) := by
    intro styles
    rw [List.drop_take, Text.byteLength_append, Nat.add_sub_cancel_left]
  have hnow : (styled.styles.drop (Text.byteLength before)).take (Text.byteLength line) =
      (now.drop (Text.byteLength before)).take (Text.byteLength line) := by
    rw [hmiddle, htake, ← hmiddle]
  have hwas : (buffer.styles.drop (Text.byteLength before)).take (Text.byteLength line) =
      (was.drop (Text.byteLength prior)).take (Text.byteLength line) := by
    have := h.drop_styles []
    rw [List.append_nil, List.append_nil] at this
    rw [this]
  have hlast : ((now.drop (Text.byteLength before)).take (Text.byteLength line)).getLast? =
      styled.styleAt? (Text.byteLength (before ++ line) - 1) := by
    have hpos := Text.byteLength_pos hne
    have hlength : ((now.drop (Text.byteLength before)).take (Text.byteLength line)).length =
        Text.byteLength line := by simp [now]
    rw [← hnow] at hlength ⊢
    rw [List.getLast?_eq_getElem?, hlength, List.getElem?_take_of_lt (by omega),
      List.getElem?_drop, Buffer.styleAt?, Text.byteLength_append, Nat.add_sub_assoc hpos]
  have hword : ∃ c ∈ line, Text.isBlank c = false := by
    obtain ⟨c, cs, rfl⟩ := List.exists_cons_of_ne_nil hne
    exact ⟨c, List.mem_cons_self, h.word c rfl⟩
  have hbehind := drop_byteStyles language (h.cuts ht).2 (hnext.cuts ht).2 (h.cuts ht).1
    (hnext.cuts ht).1 hword (hnow.symm.trans (hsame.trans hwas)) (hlast ▸ hclosed)
  rw [hnext.styles, hnext.text, List.append_assoc, List.append_assoc, ← hbehind,
    List.take_append_drop]

/-- One line further, where the line is the one that the loop takes. -/
theorem wholeLine (h : (ofLanguage language).Settling buffer prior before after) (hne : after ≠ [])
    (hline : line = (ofLanguage language).tokenizer.wholeLine before after) :
    line ≠ [] ∧ after = line ++ after.drop line.length ∧
      ∃ styled, (ofLanguage language).restyle? buffer (Text.byteLength before)
          (Text.byteLength before + Text.byteLength line) = some styled ∧
        styled.text = buffer.text ∧
        (ofLanguage language).Settling styled (prior ++ line) (before ++ line)
          (after.drop line.length) := by
  obtain ⟨rest, hafter, hlast, hnext⟩ :=
    (ofLanguage language).tokenizer.exists_wholeLine before after
  have hpos := (ofLanguage language).tokenizer.wholeLine_length_pos before after hne
  rw [← hline] at hafter hlast hpos
  have hrest : after.drop line.length = rest := by rw [hafter, List.drop_left]
  rw [hafter] at h
  rw [hrest, ← Text.byteLength_append]
  exact ⟨List.length_pos_iff.1 hpos, hafter, h.step hlast hnext⟩

end Settling

/-- What the loop does with the next line. -/
theorem carryOn?_eq {start stop : Nat} (hne : after ≠ [])
    (hline : line = lexer.tokenizer.wholeLine before after)
    (hstart : start = Text.byteLength before) (hstop : stop = start + Text.byteLength line)
    (hstyled : lexer.restyle? buffer start stop = some styled) :
    lexer.carryOn? buffer before after =
      if (styled.styles.drop start).take (Text.byteLength line) =
          (buffer.styles.drop start).take (Text.byteLength line) ∧
          styled.styleAt? (stop - 1) ≠ some .string then some (styled, stop)
      else lexer.carryOn? styled (before ++ line) (after.drop line.length) := by
  obtain ⟨c, cs, rfl⟩ := List.exists_cons_of_ne_nil hne
  subst hline hstart hstop
  rw [carryOn?]
  simp only [hstyled, Nat.add_sub_cancel_left]

/-- The loop ends with the styles of one pass over the new text. -/
theorem Settling.carryOn (h : (ofLanguage language).Settling buffer prior before after) :
    ∃ settled last, (ofLanguage language).carryOn? buffer before after = some (settled, last) ∧
      settled.text = buffer.text ∧
      settled.styles = (ofLanguage language).byteStyles buffer.text := by
  induction hlength : after.length using Nat.strong_induction_on
    generalizing buffer prior before after with
  | _ n ih =>
      rcases eq_or_ne after [] with rfl | hne
      · exact ⟨buffer, _, by rw [carryOn?], rfl, h.styles_eq⟩
      obtain ⟨hpos, hafter, styled, hstyled, hsame, hnext⟩ := h.wholeLine hne rfl
      rw [carryOn?_eq hne rfl rfl rfl hstyled]
      split
      · next hsettled =>
          refine ⟨styled, _, rfl, hsame, ?_⟩
          rw [← hsame]
          rw [hafter] at h
          rw [← Text.byteLength_append] at hsettled
          exact h.styles_eq_of_settled hnext hpos hsettled.1 hsettled.2
      · have hless :
            (after.drop ((ofLanguage language).tokenizer.wholeLine before after).length).length <
              n := by
          have := List.length_pos_iff.2 hpos
          have := List.length_pos_iff.2 hne
          rw [List.length_drop]
          omega
        obtain ⟨settled, last, hsettled, htext, hstyles⟩ := ih _ hless hnext rfl
        exact ⟨settled, last, hsettled, htext.trans hsame, by rw [hstyles, hsame]⟩

/-- The styles right after an edit: what came in is plain, and all else is as it was. -/
def editedStyles (lexer : Lexer) (before removed inserted after : List Char) : List Category :=
  (lexer.byteStyles (before ++ (removed ++ after))).take (Text.byteLength before) ++
    List.replicate (Text.byteLength inserted) .plain ++
    (lexer.byteStyles (before ++ (removed ++ after))).drop (Text.byteLength (before ++ removed))

variable {removed inserted : List Char}

@[simp] theorem length_editedStyles (lexer : Lexer) :
    (lexer.editedStyles before removed inserted after).length =
      Text.byteLength (before ++ (inserted ++ after)) := by
  simp [editedStyles]
  omega

theorem drop_editedStyles (lexer : Lexer) (line : List Char) :
    (lexer.editedStyles before removed inserted after).drop
        (Text.byteLength (before ++ inserted ++ line)) =
      (lexer.byteStyles (before ++ (removed ++ after))).drop
        (Text.byteLength (before ++ removed ++ line)) := by
  rw [editedStyles, Text.byteLength_append _ line, ← List.drop_drop,
    List.drop_left' (by simp), List.drop_drop, ← Text.byteLength_append]

/-- In front of the line that is edited, the styles are those of the new text. -/
theorem agrees_of_edit {front last : List Char} {n : Nat}
    (htext : buffer.text = front ++ last ++ (inserted ++ after))
    (hstyles : buffer.styles =
      (ofLanguage language).editedStyles (front ++ last) removed inserted after)
    (hfront : ∀ c ∈ front.getLast?, Text.isLineBreak c = true)
    (hn : n ≤ Text.byteLength front) : (ofLanguage language).Agrees buffer n where
  length := by rw [hstyles, length_editedStyles, Buffer.length, htext]
  styles := by
    rw [hstyles, editedStyles, htext, List.append_assoc,
      List.take_append_of_le_length (by simp; omega), List.take_take,
      Nat.min_eq_left (by simp; omega), List.append_assoc, List.append_assoc,
      take_byteStyles_of_le language hfront _ (last ++ (inserted ++ after)) hn]

/--
Styling the damaged lines, from the token around the start of the first one on, brings the
loop to its first state.
-/
theorem exists_settling (htext : buffer.text = before ++ (inserted ++ after))
    (hstyles : buffer.styles = (ofLanguage language).editedStyles before removed inserted after)
    (hline : line = (ofLanguage language).tokenizer.wholeLine (before ++ inserted) after) :
    ∃ first styled, (ofLanguage language).tokenizer.alignStart? buffer.text
        (Text.byteLength before - Text.byteLength (Text.lastLine before)) = some first ∧
      (ofLanguage language).restyle? buffer first
        (Text.byteLength (before ++ inserted ++ line)) = some styled ∧
      styled.text = buffer.text ∧
      (ofLanguage language).Settling styled (before ++ removed ++ line) (before ++ inserted ++ line)
        (after.drop line.length) := by
  have ht := isOrderly_ofLanguage language
  obtain ⟨front, hbefore, hfront⟩ := Text.exists_lastLine before
  generalize Text.lastLine before = last at hbefore ⊢
  subst hbefore
  rw [Text.byteLength_append, Nat.add_sub_cancel]
  let t := (ofLanguage language).tokenizer
  obtain ⟨core, -, hcore, -, hcut, -⟩ :=
    Tokenizer.exists_cuts_around ht front (last ++ (inserted ++ after))
  generalize hleft : t.leftOf front (last ++ (inserted ++ after)) = left at hcore hcut
  have hfirst : t.alignStart? buffer.text (Text.byteLength front) =
      some (Text.byteLength core) := by
    rw [htext, List.append_assoc, Tokenizer.alignStart?_byteLength, hleft, hcore,
      Text.byteLength_append, Nat.add_sub_cancel]
  have hagrees : (ofLanguage language).Agrees buffer (Text.byteLength core) := by
    have hle : Text.byteLength core ≤ Text.byteLength front := by
      rw [hcore, Text.byteLength_append]
      omega
    exact agrees_of_edit htext hstyles hfront hle
  obtain ⟨rest, hafter, hlast, hnext⟩ := t.exists_wholeLine (front ++ last ++ inserted) after
  rw [← hline] at hafter hlast
  have hrest : after.drop line.length = rest := by rw [hafter, List.drop_left]
  have hwhole : buffer.text = core ++ ((left ++ (last ++ (inserted ++ line))) ++ rest) := by
    rw [htext, hcore, hafter]
    simp
  have hfront : core ++ (left ++ (last ++ (inserted ++ line))) =
      front ++ last ++ inserted ++ line := by
    simp [hcore]
  have hbehind := Tokenizer.cuts_behind_line ht (front ++ last ++ inserted) hlast hnext
  obtain ⟨styled, hstyled, hsame, hout⟩ := hagrees.restyle hwhole (by simpa [hafter] using hcut)
    (hfront ▸ hbehind)
  rw [hfront] at hstyled hout
  rw [hrest]
  refine ⟨_, styled, hfirst, hstyled, hsame, ?_, ?_, fun hne =>
    ⟨Tokenizer.isBlank_of_append (hlast hne), Tokenizer.isBlank_of_append (hlast hne)⟩, hnext⟩
  · rw [hsame, htext, hafter]
    simp
  · rw [hout, hstyles, drop_editedStyles, htext, hafter]
    simp

end Lexer

/-- Replacing a range between two places succeeds, and what comes in is plain. -/
theorem Buffer.replace?_eq {buffer : Buffer} {removed : List Char}
    (htext : buffer.text = before ++ (removed ++ after)) (inserted : List Char) :
    buffer.replace? (Text.byteLength before) (Text.byteLength (before ++ removed)) inserted =
      some { buffer with
        text := before ++ inserted ++ after
        styles := buffer.styles.take (Text.byteLength before) ++
          List.replicate (Text.byteLength inserted) .plain ++
          buffer.styles.drop (Text.byteLength (before ++ removed)) } := by
  have hstop : Text.splitAt? buffer.text (Text.byteLength (before ++ removed)) =
      some (before ++ removed, after) := by
    rw [htext, ← List.append_assoc, Text.splitAt?_byteLength]
  have hstart : Text.splitAt? buffer.text (Text.byteLength before) =
      some (before, removed ++ after) := by
    rw [htext, Text.splitAt?_byteLength]
  rw [Buffer.replace?, if_pos (by simp), hstart, hstop]
  rfl

namespace Document

/-- The lexer of a document is a built-in one, and the text is styled as in one pass. -/
structure IsStyled (document : Document) : Prop where
  builtIn : ∃ language, document.lexer = .ofLanguage language
  styles : document.buffer.styles = document.lexer.byteStyles document.text

variable {document : Document} {removed : List Char}

/-- An edit between two places succeeds and leaves the text styled as in one pass. -/
theorem IsStyled.replace (h : document.IsStyled)
    (htext : document.text = before ++ (removed ++ after)) (inserted : List Char) :
    ∃ edited first last, document.replace? (Text.byteLength before)
        (Text.byteLength (before ++ removed)) inserted = some (edited, first, last) ∧
      edited.text = before ++ (inserted ++ after) ∧ edited.IsStyled := by
  obtain ⟨language, hlexer⟩ := h.builtIn
  have hstyles := h.styles
  rw [hlexer, htext] at hstyles
  have hedited := Buffer.replace?_eq htext inserted
  rw [hstyles] at hedited
  generalize hbuffer : Buffer.mk _ _ _ = buffer at hedited
  have hbtext : buffer.text = before ++ (inserted ++ after) := by
    rw [← hbuffer, List.append_assoc]
  obtain ⟨first, styled, hfirst, hstyled, hsame, hsettling⟩ :=
    Lexer.exists_settling hbtext (congrArg Buffer.styles hbuffer.symm) rfl
  obtain ⟨settled, last, hsettled, hstext, hout⟩ := hsettling.carryOn
  have hsplit : Text.splitAt? buffer.text (Text.byteLength before) =
      some (before, inserted ++ after) := by
    rw [hbtext, Text.splitAt?_byteLength]
  have hleft : ∀ line : List Char, buffer.text.drop (before ++ inserted ++ line).length =
      after.drop line.length := by
    intro line
    rw [hbtext, ← List.append_assoc, List.length_append, ← List.drop_drop, List.drop_left]
  refine ⟨{ document with buffer := settled, modified := true }, first, last, ?_,
    hstext.trans (hsame.trans hbtext), ⟨language, hlexer⟩, ?_⟩
  · rw [replace?, hedited, hlexer]
    simp only [Option.bind_eq_bind, Option.bind_some, hsplit, hfirst, List.drop_left, hstyled]
    rw [hleft, hsettled]
    rfl
  · rw [text, hstext, hlexer]
    exact hout

end Document

end EditorCore
