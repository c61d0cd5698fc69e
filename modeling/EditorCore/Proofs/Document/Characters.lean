import EditorCore.Proofs.Document.History
import EditorCore.Proofs.Document.Kept
import EditorCore.Proofs.Style.Spans

/-!
# Each character in one style

Styles are kept byte by byte, and an edit moves them about and writes over some. Still no style
ever begins or ends within a character, whatever lexer a document has: a range is cut out of a
text between two characters, and what is styled anew are the tokens of such a range, each of them
with one style.
-/

namespace EditorCore

variable {buffer edited styled settled : Buffer} {lexer : Lexer} {start stop last : Nat}
  {inserted before after : List Char}

namespace Buffer

/-- The bytes of a buffer are those of characters with one style each. -/
def IsWhole (buffer : Buffer) : Prop :=
  ∃ characters : StyledChars, buffer.text = characters.text ∧ buffer.styles = characters.bytes

theorem isWhole_ofText (text : List Char) : (ofText text).IsWhole :=
  ⟨.inStyle .plain text, by simp [ofText], by simp [ofText]⟩

/-- Bytes are replaced between two characters. -/
theorem IsWhole.replace? (h : buffer.IsWhole)
    (hedited : buffer.replace? start stop inserted = some edited) : edited.IsWhole := by
  obtain ⟨hle, hstart, hstop⟩ := places_of_replace? hedited
  obtain ⟨before, removed, after, htext, rfl, rfl⟩ := Text.exists_range hle hstart hstop
  rw [replace?_eq htext] at hedited
  obtain rfl := Option.some.inj hedited
  obtain ⟨characters, hcharacters, hstyles⟩ := h
  obtain ⟨front, rest, rfl, rfl, hrest⟩ :=
    StyledChars.exists_append (hcharacters.symm.trans htext)
  obtain ⟨middle, back, rfl, rfl, rfl⟩ := StyledChars.exists_append hrest
  refine ⟨front ++ (StyledChars.inStyle .plain inserted ++ back), by simp, ?_⟩
  have hfront : buffer.styles.take (Text.byteLength front.text) = front.bytes := by
    rw [hstyles, StyledChars.bytes_append, List.take_left' (by simp)]
  have hback : buffer.styles.drop (Text.byteLength (front.text ++ middle.text)) = back.bytes := by
    rw [hstyles, StyledChars.bytes_append, StyledChars.bytes_append, ← List.append_assoc,
      List.drop_left' (by simp)]
  rw [hfront, hback]
  simp

/-- A range is styled between two characters, and each token in one style. -/
theorem IsWhole.restyle? (h : buffer.IsWhole)
    (hstyled : lexer.restyle? buffer start stop = some styled) : styled.IsWhole := by
  rcases Lexer.restyle?_cases hstyled with ⟨-, rfl⟩ | ⟨context, range, hrange, rfl⟩
  · exact h
  · obtain ⟨front, back, htext, hstart, -⟩ := Text.slice?_eq_some_iff.1 hrange
    obtain ⟨characters, hcharacters, hstyles⟩ := h
    obtain ⟨left, rest, rfl, rfl, hrest⟩ :=
      StyledChars.exists_append (hcharacters.symm.trans htext)
    obtain ⟨middle, right, rfl, rfl, rfl⟩ := StyledChars.exists_append hrest
    refine ⟨left ++ ((lexer.range context middle.text).characters ++ right), ?_, ?_⟩
    · simpa using htext
    · rw [StyledChars.bytes_append, StyledChars.bytes_append] at hstyles
      rw [← hstart, ← StyledChars.length_bytes left, styles_putAll hstyles]
      · simp [Lexer.styles_runs]
      · simp [Lexer.styles_runs]

/-- The loop over the lines styles one range after the other. -/
theorem IsWhole.carryOn? (h : buffer.IsWhole)
    (hsettled : lexer.carryOn? buffer before after = some (settled, last)) :
    settled.IsWhole := by
  fun_induction Lexer.carryOn? lexer buffer before after with
  | case1 buffer before =>
      obtain ⟨rfl, -⟩ := Prod.mk.inj (Option.some.inj hsettled)
      exact h
  | case2 => simp at hsettled
  | case3 buffer before c cs line start stop styled hstyled was is hdone =>
      obtain ⟨rfl, -⟩ := Prod.mk.inj (Option.some.inj hsettled)
      exact h.restyle? hstyled
  | case4 buffer before c cs line start stop styled hstyled was is hdone ih =>
      exact ih (h.restyle? hstyled) hsettled

end Buffer

namespace Document

variable {document next : Document}

/-! ### What each operation keeps -/

theorem isWhole_restyleAll (h : document.buffer.IsWhole) :
    document.restyleAll.buffer.IsWhole := by
  simp only [Document.restyleAll]
  cases hstyled : document.lexer.restyle? document.buffer 0 document.buffer.length with
  | none => exact h
  | some styled => exact h.restyle? hstyled

theorem isWhole_ofText (text : List Char) (lexer : Lexer) :
    (ofText text lexer).buffer.IsWhole :=
  isWhole_restyleAll (Buffer.isWhole_ofText text)

theorem isWhole_of_replace? {first : Nat} (h : document.buffer.IsWhole)
    (hreplace : document.replace? start stop inserted = some (next, first, last)) :
    next.buffer.IsWhole := by
  obtain ⟨edited, hedited, hreplace⟩ := Option.bind_eq_some_iff.1 hreplace
  obtain ⟨⟨before, after⟩, -, hreplace⟩ := Option.bind_eq_some_iff.1 hreplace
  obtain ⟨lineStart, -, hreplace⟩ := Option.bind_eq_some_iff.1 hreplace
  obtain ⟨styled, hstyled, hreplace⟩ := Option.bind_eq_some_iff.1 hreplace
  obtain ⟨⟨settled, stop⟩, hsettled, hreplace⟩ := Option.bind_eq_some_iff.1 hreplace
  obtain ⟨rfl, -⟩ := Prod.mk.inj (Option.some.inj hreplace)
  exact ((h.replace? hedited).restyle? hstyled).carryOn? hsettled

theorem isWhole_rename (h : document.buffer.IsWhole) (path : Path) :
    (document.rename path).buffer.IsWhole := by
  simp only [Document.rename]
  split
  · exact h
  · exact isWhole_restyleAll h

theorem isWhole_save {disk left : Disk} (h : document.buffer.IsWhole)
    (hsave : document.save disk = .ok (next, left)) : next.buffer.IsWhole := by
  rw [(writeText?_of_save hsave).1]
  exact h

theorem isWhole_saveAs (h : document.buffer.IsWhole) (disk : Disk) (path : Path) :
    (document.saveAs disk path).1.buffer.IsWhole := by
  have hrenamed := isWhole_rename h path
  simp only [Document.saveAs]
  split
  · next hsave => exact isWhole_save hrenamed hsave
  · exact hrenamed

theorem isWhole_setLineEnding (h : document.buffer.IsWhole) (ending : LineEnding) :
    (document.setLineEnding ending).buffer.IsWhole := by
  simp only [Document.setLineEnding]
  split
  · exact h
  · refine isWhole_restyleAll ?_
    cases hreplaced : document.buffer.replace? 0 document.buffer.length
        (ending.normalize document.text) with
    | none => exact h
    | some replaced => exact h.replace? hreplaced

theorem isWhole_opened {disk : Disk} {path : Path} (h : open? disk path = .ok document) :
    document.buffer.IsWhole := by
  obtain ⟨text, -, rfl⟩ := open?_eq_ok_iff.1 h
  exact isWhole_ofText text (.ofPath path)

/-- One step: no operation splits a character. -/
theorem isWhole_of_result? (h : document.buffer.IsWhole) {operation : Operation}
    (hnext : operation.result? document = some next) : next.buffer.IsWhole := by
  cases step_of_result? hnext with
  | replaced hedited => exact isWhole_of_replace? h hedited
  | restyled => exact isWhole_restyleAll h
  | rewritten ending => exact isWhole_setLineEnding h ending
  | saved hsave => exact isWhole_save h hsave
  | savedAs disk path => exact isWhole_saveAs h disk path
  | refused => exact h

/-! ### Runs -/

/-- The documents that come out of some operations on a document begun with any lexer. -/
inductive Arises : Document → Prop where
  | ofText (text : List Char) (lexer : Lexer) : Arises (ofText text lexer)
  | opened {disk : Disk} {path : Path} {document : Document}
    (h : open? disk path = .ok document) : Arises document
  | untitled (path : Path) : Arises (untitled path)
  | step {document next : Document} (operation : Operation) (h : Arises document)
    (hnext : operation.result? document = some next) : Arises next

/-- A run: in every document that arises, each character has one style. -/
theorem Arises.isWhole (h : Arises document) : document.buffer.IsWhole := by
  induction h with
  | ofText text lexer => exact isWhole_ofText text lexer
  | opened h => exact isWhole_opened h
  | untitled path => exact isWhole_ofText [] (.ofPath path)
  | step operation _ hnext ih => exact isWhole_of_result? ih hnext

end Document

end EditorCore
