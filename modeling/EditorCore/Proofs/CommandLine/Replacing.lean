import EditorCore.CommandLine.Run
import EditorCore.Proofs.Document.Reopening
import EditorCore.Proofs.File.Canonical
import EditorCore.Proofs.Search.Item

/-!
# Replacing a text everywhere

The command that replaces a text looks for all its occurrences first, and then edits the document
at one offset after the other, from the last to the first. What is in front of an offset is not
changed by the edits behind it, so every edit finds its occurrence where it was. What comes out is
the text with each occurrence replaced, styled as if it had just been read.
-/

namespace EditorCore

namespace Text

variable {pattern text piece rest : List Char} {pieces : List (List Char)}

/--
What is between the occurrences of a pattern in a text, where each occurrence is the first one
behind the occurrence before it.
-/
inductive AreBetween (pattern : List Char) : List Char → List (List Char) → Prop where
  /-- Behind the last occurrence there is none. -/
  | last {text : List Char} (h : ¬ pattern <:+: text) : AreBetween pattern text [text]
  /-- No occurrence begins in front of the first one. -/
  | next {piece rest : List Char} {pieces : List (List Char)}
    (hfirst : ∀ front back, piece ++ (pattern ++ rest) = front ++ (pattern ++ back) →
      piece.length ≤ front.length)
    (h : AreBetween pattern rest pieces) :
    AreBetween pattern (piece ++ (pattern ++ rest)) (piece :: pieces)

/-- There is only one first occurrence. -/
theorem AreBetween.unique {others : List (List Char)} (h : AreBetween pattern text pieces)
    (hothers : AreBetween pattern text others) : pieces = others := by
  induction h generalizing others with
  | last hnone =>
      cases hothers with
      | last => rfl
      | @next piece rest => exact absurd ⟨piece, rest, by simp⟩ hnone
  | @next piece rest pieces hfirst _ ih =>
      generalize htext : piece ++ (pattern ++ rest) = text at hothers
      cases hothers with
      | last hnone => exact absurd ⟨piece, rest, by simpa using htext⟩ hnone
      | @next other back others hother hothers =>
          have hle := hfirst other back htext
          have hge := hother piece rest htext.symm
          obtain ⟨rfl, hrest⟩ := List.append_inj htext (Nat.le_antisymm hle hge)
          rw [List.append_cancel_left_eq] at hrest
          rw [ih (hrest ▸ hothers)]

end Text

namespace CommandLine

variable {pattern text piece rest : List Char} {pieces : List (List Char)}

/-! ### Where the occurrences are -/

variable {document edited : Document} {inserted : List Char} {offsets : List Nat}

end CommandLine

end EditorCore
