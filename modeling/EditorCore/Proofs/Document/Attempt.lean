import EditorCore.Proofs.Document.Damage

/-!
# Edits that fail

An edit is a row of steps, each of which cuts the text or its styles at offsets that the steps
before it computed. Here an edit is carried out with nothing but offsets: any cut can fail, and
what was changed until then stays changed. In a document that arises only the first cut can
fail, the one at the range that was asked for, and nothing was changed by then; every other
edit runs to its end.
-/

namespace EditorCore

variable {t : Tokenizer} {lexer : Lexer} {buffer styled settled : Buffer}
  {before after inserted line : List Char} {start stop offset last : Nat}

namespace Text

/-! ### Lines by offsets -/

/-- Where the line begins that an offset lies in. -/
def lineStart? (text : List Char) (offset : Nat) : Option Nat := do
  let (before, _) ← splitAt? text offset
  pure (offset - byteLength (lastLine before))

/-- Where the line ends that an offset lies in, behind its line break. -/
def lineEnd? (text : List Char) (offset : Nat) : Option Nat := do
  let (_, after) ← splitAt? text offset
  pure (offset + byteLength (firstLine after))

/-- Replace a range of bytes by a text, if the range lies between two places. -/
def splice? (text : List Char) (start stop : Nat) (inserted : List Char) :
    Option (List Char) :=
  if start ≤ stop then do
    let (before, _) ← splitAt? text start
    let (_, after) ← splitAt? text stop
    pure (before ++ inserted ++ after)
  else none

theorem splice?_eq {text removed : List Char} (htext : text = before ++ (removed ++ after))
    (inserted : List Char) :
    splice? text (byteLength before) (byteLength (before ++ removed)) inserted =
      some (before ++ inserted ++ after) := by
  have hstop : splitAt? text (byteLength (before ++ removed)) = some (before ++ removed, after) :=
    splitAt?_eq_some_iff.2 ⟨by rw [htext, List.append_assoc], rfl⟩
  rw [splice?, if_pos (by simp), hstop, htext, splitAt?_byteLength]
  rfl

/-- A range is refused if it is reversed or one of its ends is no place of the text. -/
theorem splice?_eq_none_iff {text : List Char} : splice? text start stop inserted = none ↔
    stop < start ∨ byteLength text < stop ∨ start ∉ places text ∨ stop ∉ places text := by
  have hend : byteLength text < stop → stop ∉ places text := by
    intro hlt hplace
    exact absurd (le_of_mem_places hplace) (by omega)
  rw [← splitAt?_eq_none_iff, ← splitAt?_eq_none_iff] at *
  rw [splice?]
  by_cases hle : start ≤ stop
  · rw [if_pos hle]
    cases hstart : splitAt? text start with
    | none => simp
    | some front =>
        cases hstop : splitAt? text stop with
        | none => simp
        | some back =>
            have hlength : ¬ byteLength text < stop := by
              intro hlt
              rw [hend hlt] at hstop
              simp at hstop
            simp [hlength, Nat.not_lt.2 hle]
  · rw [if_neg hle]
    simp only [true_iff]
    exact .inl (Nat.lt_of_not_le hle)

end Text

namespace Tokenizer

/-- Where the last token of the line ends that an offset lies in. -/
def lineStop? (t : Tokenizer) (text : List Char) (offset : Nat) : Option Nat := do
  let stop ← Text.lineEnd? text offset
  t.sliceEnd? text stop

theorem lineStop?_byteLength (t : Tokenizer) (before after : List Char) :
    t.lineStop? (before ++ after) (Text.byteLength before) =
      some (Text.byteLength (before ++ t.wholeLine before after)) := by
  obtain ⟨more, hmore, -⟩ := Text.exists_firstLine after
  have hline : Text.firstLine after ++ after.drop (Text.firstLine after).length = after :=
    List.prefix_iff_eq_append.1 ⟨more, hmore.symm⟩
  have htext : before ++ after = before ++ Text.firstLine after ++
      after.drop (Text.firstLine after).length := by
    rw [List.append_assoc, hline]
  simp only [lineStop?, Text.lineEnd?, Text.splitAt?_byteLength, Option.bind_eq_bind,
    Option.bind_some, Option.pure_def]
  rw [← Text.byteLength_append, htext, sliceEnd?_eq, alignEnd?_byteLength, wholeLine,
    ← Text.byteLength_append, List.append_assoc]

/-- In front of the end of the text, a line ends behind the offset that lies in it. -/
theorem lt_of_lineStop? {text : List Char} (h : t.lineStop? text offset = some stop)
    (hlt : offset < Text.byteLength text) : offset < stop := by
  cases hsplit : Text.splitAt? text offset with
  | none => simp [lineStop?, Text.lineEnd?, hsplit] at h
  | some sides =>
      obtain ⟨before, after⟩ := sides
      obtain ⟨rfl, rfl⟩ := Text.eq_of_splitAt? hsplit
      have hne : after ≠ [] := by
        rintro rfl
        simp at hlt
      have hline := Text.byteLength_pos
        (List.ne_nil_of_length_pos (t.wholeLine_length_pos before after hne))
      rw [lineStop?_byteLength, Option.some.injEq, Text.byteLength_append] at h
      omega

/-- The lines that an edit damaged, with the tokens that they begin and end in. -/
def damage? (t : Tokenizer) (text : List Char) (start stop : Nat) : Option (Nat × Nat) := do
  let lineStart ← Text.lineStart? text start
  let first ← t.sliceStart? text lineStart
  let last ← t.lineStop? text stop
  pure (first, last)

theorem damage?_eq {text : List Char} {first : Nat}
    (htext : text = before ++ (inserted ++ after))
    (hfirst : t.alignStart? text
      (Text.byteLength before - Text.byteLength (Text.lastLine before)) = some first) :
    t.damage? text (Text.byteLength before) (Text.byteLength before + Text.byteLength inserted) =
      some (first, Text.byteLength
        (before ++ inserted ++ t.wholeLine (before ++ inserted) after)) := by
  have hstart : Text.lineStart? text (Text.byteLength before) =
      some (Text.byteLength before - Text.byteLength (Text.lastLine before)) := by
    rw [Text.lineStart?, htext, Text.splitAt?_byteLength]
    rfl
  have hstop : t.lineStop? text (Text.byteLength before + Text.byteLength inserted) =
      some (Text.byteLength (before ++ inserted ++ t.wholeLine (before ++ inserted) after)) := by
    rw [← Text.byteLength_append, htext, ← List.append_assoc, lineStop?_byteLength]
  rw [damage?, hstart, hstop]
  simp only [Option.bind_eq_bind, Option.bind_some, sliceStart?_eq, hfirst, Option.pure_def]

end Tokenizer

theorem Buffer.replace?_eq_splice? (buffer : Buffer) (start stop : Nat) (inserted : List Char) :
    buffer.replace? start stop inserted =
      (Text.splice? buffer.text start stop inserted).map fun text =>
        { buffer with
          text
          styles := buffer.styles.take start ++
            List.replicate (Text.byteLength inserted) .plain ++ buffer.styles.drop stop } := by
  rw [Buffer.replace?, Text.splice?]
  split
  · cases Text.splitAt? buffer.text start with
    | none => rfl
    | some front => cases Text.splitAt? buffer.text stop <;> rfl
  · rfl

/-- The styles of the bytes between two offsets. -/
def Buffer.stylesOf? (buffer : Buffer) (start stop : Nat) : Option (List Category) :=
  if start ≤ stop ∧ stop ≤ buffer.styles.length then
    some ((buffer.styles.drop start).take (stop - start))
  else none

namespace Lexer

/-! ### The lines behind the damage -/

/--
Style the line behind an offset. The answer is where it ends and whether the styling may end
there, with the buffer that is left.
-/
def attemptLine (lexer : Lexer) (buffer : Buffer) (offset : Nat) :
    Option (Nat × Bool) × Buffer :=
  match lexer.tokenizer.lineStop? buffer.text offset with
  | none => (none, buffer)
  | some stop =>
    match buffer.stylesOf? offset stop with
    | none => (none, buffer)
    | some was =>
      match lexer.sliceRestyle? buffer offset stop with
      | none => (none, buffer)
      | some styled =>
        match styled.stylesOf? offset stop with
        | none => (none, styled)
        -- a line has a last byte, since it ends behind the offset
        | some is => (some (stop, is = was ∧ styled.styleAt? (stop - 1) ≠ some .string), styled)

/-- Each line takes the styling further, over the same text. -/
theorem attemptLine_advances {settles : Bool}
    (h : lexer.attemptLine buffer offset = (some (stop, settles), styled))
    (hlt : offset < buffer.length) : styled.length - stop < buffer.length - offset := by
  simp only [attemptLine] at h
  split at h
  · simp at h
  · next hstop =>
      split at h
      · simp at h
      · split at h
        · simp at h
        · next hstyled =>
            split at h
            · simp at h
            · simp only [Prod.mk.injEq, Option.some.injEq] at h
              obtain ⟨⟨rfl, -⟩, rfl⟩ := h
              rw [sliceRestyle?_eq_restyle?] at hstyled
              have hadvance := Tokenizer.lt_of_lineStop? hstop hlt
              rw [Buffer.length, Buffer.length, text_of_restyle? hstyled]
              rw [Buffer.length] at hlt
              omega

/--
Style the lines behind an offset one by one, until one of them settles. The answer is where
the last of them ends, with the buffer that is left.
-/
def attemptLines (lexer : Lexer) (buffer : Buffer) (offset : Nat) : Option Nat × Buffer :=
  if hlt : offset < buffer.length then
    match hline : lexer.attemptLine buffer offset with
    | (none, left) => (none, left)
    | (some (stop, true), left) => (some stop, left)
    | (some (stop, false), left) =>
      have := attemptLine_advances hline hlt
      lexer.attemptLines left stop
  else (some offset, buffer)
termination_by buffer.length - offset

/-- What follows when one line was styled. -/
theorem attemptLines_step {settles : Bool} (hlt : offset < buffer.length)
    (hline : lexer.attemptLine buffer offset = (some (stop, settles), styled)) :
    lexer.attemptLines buffer offset =
      if settles then (some stop, styled) else lexer.attemptLines styled stop := by
  rw [attemptLines, dif_pos hlt]
  split
  · next left hleft => simp [hline] at hleft
  · next hleft =>
      rw [hline] at hleft
      cases hleft
      rfl
  · next hleft =>
      rw [hline] at hleft
      cases hleft
      rfl

/-- A place with a character behind it lies in front of the end. -/
theorem lt_length_of_cons {c : Char} (htext : buffer.text = before ++ c :: after) :
    Text.byteLength before < buffer.length := by
  have hpos := Text.byteLength_pos (List.cons_ne_nil c after)
  rw [Buffer.length, htext, Text.byteLength_append]
  omega

/-- On a whole buffer, no cut of the next line fails. -/
theorem attemptLine_eq (h : buffer.IsWhole) (htext : buffer.text = before ++ after)
    (hline : line = lexer.tokenizer.wholeLine before after)
    (hstart : start = Text.byteLength before) (hstop : stop = start + Text.byteLength line)
    (hstyled : lexer.restyle? buffer start stop = some styled) :
    lexer.attemptLine buffer start = (some (stop, decide
      ((styled.styles.drop start).take (stop - start) =
          (buffer.styles.drop start).take (stop - start) ∧
        styled.styleAt? (stop - 1) ≠ some .string)), styled) := by
  have hfound : lexer.tokenizer.lineStop? buffer.text start = some stop := by
    rw [htext, hstart, Tokenizer.lineStop?_byteLength, ← hline, Text.byteLength_append, hstop,
      hstart]
  obtain ⟨rest, hrest, -⟩ := lexer.tokenizer.exists_wholeLine before after
  rw [← hline] at hrest
  have hend : stop ≤ buffer.length := by
    have hfront : buffer.text = (before ++ line) ++ rest := by
      rw [htext, hrest, List.append_assoc]
    rw [hstop, hstart, ← Text.byteLength_append]
    exact Buffer.byteLength_le_length hfront
  have hwas : buffer.stylesOf? start stop =
      some ((buffer.styles.drop start).take (stop - start)) := by
    rw [Buffer.stylesOf?, if_pos ⟨by omega, h.length ▸ hend⟩]
  have his : styled.stylesOf? start stop =
      some ((styled.styles.drop start).take (stop - start)) := by
    have hlength := (h.restyle? hstyled).length
    rw [Buffer.length, text_of_restyle? hstyled, ← Buffer.length] at hlength
    rw [Buffer.stylesOf?, if_pos ⟨by omega, hlength ▸ hend⟩]
  simp only [attemptLine, hfound, hwas, sliceRestyle?_eq_restyle?, hstyled, his]

/-- On a whole buffer, the lines behind a place are styled as between cuts of the text. -/
theorem attemptLines_eq (h : buffer.IsWhole) (htext : buffer.text = before ++ after)
    (hsettled : lexer.carryOn? buffer before after = some (settled, last)) :
    lexer.attemptLines buffer (Text.byteLength before) = (some last, settled) := by
  fun_induction carryOn? lexer buffer before after with
  | case1 buffer before =>
      obtain ⟨rfl, rfl⟩ := Prod.mk.inj (Option.some.inj hsettled)
      have hend : ¬ Text.byteLength before < buffer.length := by
        rw [Buffer.length, htext, List.append_nil]
        exact lt_irrefl _
      rw [attemptLines, dif_neg hend]
  | case2 buffer before c cs line start stop hnone => simp at hsettled
  | case3 buffer before c cs line start stop styled hstyled was is hdone =>
      obtain ⟨rfl, rfl⟩ := Prod.mk.inj (Option.some.inj hsettled)
      have hattempt := attemptLine_eq h htext rfl rfl rfl hstyled
      rw [attemptLines_step (lt_length_of_cons htext) hattempt, if_pos (decide_eq_true hdone)]
  | case4 buffer before c cs line start stop styled hstyled was is hdone ih =>
      have hattempt := attemptLine_eq h htext rfl rfl rfl hstyled
      obtain ⟨next, hnext, hsame, hwhole, -⟩ :=
        h.exists_restyle_line lexer htext (rfl : line = _)
      obtain rfl := Option.some.inj (hstyled.symm.trans hnext)
      rw [attemptLines_step (lt_length_of_cons htext) hattempt,
        if_neg (mt of_decide_eq_true hdone)]
      have hrest := ih hwhole hsame hsettled
      rwa [Text.byteLength_append] at hrest

end Lexer

namespace Document

variable {document : Document}

/--
Replace a range of bytes by a text and style what that can have changed. The answer is the range
that was styled, or none if a cut failed, with the document that is left.
-/
def attempt (document : Document) (start stop : Nat) (inserted : List Char) :
    Option (Nat × Nat) × Document :=
  match Text.splice? document.text start stop inserted with
  | none => (none, document)
  | some text =>
    let buffer := document.buffer
    if start ≤ stop ∧ stop ≤ buffer.styles.length then
      let edited : Buffer := { buffer with
        text
        styles := buffer.styles.take start ++
          List.replicate (Text.byteLength inserted) .plain ++ buffer.styles.drop stop }
      let changed : Document := { document with buffer := edited, modified := true }
      match document.lexer.tokenizer.damage? text start (start + Text.byteLength inserted) with
      | none => (none, changed)
      | some (first, last) =>
        match document.lexer.sliceRestyle? edited first last with
        | none => (none, changed)
        | some styled =>
          let (answer, settled) := document.lexer.attemptLines styled last
          (answer.map fun last => (first, last), { changed with buffer := settled })
    else (none, { document with buffer := { buffer with text } })

/-- Between two places, an edit step by step does what the edit does. -/
theorem exists_attempt_of_isWhole {removed : List Char} (h : document.buffer.IsWhole)
    (htext : document.text = before ++ (removed ++ after)) (inserted : List Char) :
    ∃ next first last, document.attempt (Text.byteLength before)
        (Text.byteLength (before ++ removed)) inserted = (some (first, last), next) ∧
      document.replace? (Text.byteLength before) (Text.byteLength (before ++ removed)) inserted =
        some (next, first, last) := by
  have hedited := Buffer.replace?_eq htext inserted
  generalize hbuffer : Buffer.mk _ _ _ = edited at hedited
  have hetext : edited.text = before ++ (inserted ++ after) := by
    rw [← hbuffer, List.append_assoc]
  have hwhole := h.replace? hedited
  obtain ⟨line, hline⟩ : ∃ line,
    line = document.lexer.tokenizer.wholeLine (before ++ inserted) after := ⟨_, rfl⟩
  obtain ⟨first, styled, settled, last, hfirst, hstyled, hsettled, -⟩ :=
    hwhole.exists_settled document.lexer hetext hline
  have hbound : Text.byteLength before ≤ Text.byteLength (before ++ removed) ∧
      Text.byteLength (before ++ removed) ≤ document.buffer.styles.length := by
    rw [h.length]
    exact ⟨by simp, Buffer.byteLength_le_length (htext.trans (List.append_assoc _ _ _).symm)⟩
  have hdamage := Tokenizer.damage?_eq hetext hfirst
  rw [hetext, ← List.append_assoc, ← hline] at hdamage
  have hstext : styled.text = before ++ inserted ++ line ++ after.drop line.length := by
    obtain ⟨rest, hrest, -⟩ :=
      document.lexer.tokenizer.exists_wholeLine (before ++ inserted) after
    rw [← hline] at hrest
    rw [Lexer.text_of_restyle? hstyled, hetext, hrest, List.drop_left]
    simp only [List.append_assoc]
  have hlines := Lexer.attemptLines_eq (hwhole.restyle? hstyled) hstext hsettled
  refine ⟨_, first, last, ?_, replace?_eq_of_settled htext hedited hline hfirst hstyled hsettled⟩
  rw [attempt, Text.splice?_eq htext]
  simp only
  rw [if_pos hbound, hbuffer]
  simp only [hdamage, Lexer.sliceRestyle?_eq_restyle?, hstyled, hlines]
  rfl

/--
Whatever the lexer and whatever was done with a document before: an edit fails if its range is
reversed, ends behind the text or has an end that is no place of the text, and then it leaves
the document as it was. It fails for no other reason: every cut that it makes of the text and
of the styles is a cut between two places, and it runs to its end, with the document and the
range that `replace?` answers.
-/
theorem attempt_fails_iff (h : Arises document) (start stop : Nat) (inserted : List Char) :
    ((document.attempt start stop inserted).1 = none ↔
      stop < start ∨ document.buffer.length < stop ∨ start ∉ Text.places document.text ∨
        stop ∉ Text.places document.text) ∧
    ((document.attempt start stop inserted).1 = none →
      (document.attempt start stop inserted).2 = document) ∧
    document.replace? start stop inserted =
      (document.attempt start stop inserted).1.map fun (first, last) =>
        ((document.attempt start stop inserted).2, first, last) := by
  have hrefused : Text.splice? document.text start stop inserted = none ↔ _ :=
    Text.splice?_eq_none_iff
  by_cases hsplice : Text.splice? document.text start stop inserted = none
  · have hattempt : document.attempt start stop inserted = (none, document) := by
      rw [attempt, hsplice]
    have hreplace : document.replace? start stop inserted = none := by
      rw [replace?, Buffer.replace?_eq_splice?, show Text.splice? document.buffer.text _ _ _ = none
        from hsplice]
      rfl
    rw [hattempt, hreplace]
    exact ⟨⟨fun _ => hrefused.1 hsplice, fun _ => rfl⟩, fun _ => rfl, rfl⟩
  · have hvalid := mt hrefused.2 hsplice
    simp only [not_or, not_lt, not_not] at hvalid
    obtain ⟨hle, -, hstart, hstop⟩ := hvalid
    obtain ⟨before, removed, after, htext, rfl, rfl⟩ := Text.exists_range hle hstart hstop
    obtain ⟨next, first, last, hattempt, hreplace⟩ :=
      exists_attempt_of_isWhole h.isWhole htext inserted
    rw [hattempt, hreplace]
    exact ⟨⟨fun hnone => by simp at hnone, fun hbad => absurd (hrefused.2 hbad) hsplice⟩,
      fun hnone => by simp at hnone, rfl⟩

/-- A range that starts inside a character is refused, and one around the character is not. -/
theorem attempt_fails_inside : ∃ document, Arises document ∧ document.text = ['é', '\n'] ∧
    document.attempt 1 2 ['x'] = (none, document) ∧ (document.attempt 0 2 ['x']).1 ≠ none := by
  have harises := Arises.ofText ['é', '\n']
    (.program { C.grammar with commentLeads := [⟨'x', 1⟩] })
  have htext := text_ofText ['é', '\n'] (.program { C.grammar with commentLeads := [⟨'x', 1⟩] })
  generalize ofText _ _ = document at harises htext
  refine ⟨document, harises, htext, ?_, ?_⟩
  · obtain ⟨hfails, hkept, -⟩ := attempt_fails_iff harises 1 2 ['x']
    have hnone := hfails.2 (.inr (.inr (.inl (by rw [htext]; decide))))
    exact Prod.ext hnone (hkept hnone)
  · rw [Ne, (attempt_fails_iff harises 0 2 ['x']).1, Buffer.length, text,
      show document.buffer.text = _ from htext]
    decide

end Document

end EditorCore
