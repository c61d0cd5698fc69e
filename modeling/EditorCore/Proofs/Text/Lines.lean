import EditorCore.Text.Line
import Mathlib.Data.List.Basic

/-!
# The lines of a text

Reading a text line by line, from the left and with the characters of a line gathered in
reverse, gives the lines that the text is made of: each has no line feed and is followed by
one, with a carriage return in front of it or without, and what is behind the last line feed
is a line unless it is empty.
-/

namespace EditorCore.Text

variable {text line rest : List Char} {pieces : List (List Char)}

/-- A text is made of lines, one behind the other. -/
inductive AreLines : List Char → List (List Char) → Prop where
  /-- An empty text has no line. -/
  | nil : AreLines [] []
  /-- The last line may go on to the end of the text. -/
  | last {line : List Char} (hne : line ≠ []) (hfeed : '\n' ∉ line) : AreLines line [line]
  /-- A line is followed by a line feed. -/
  | feed {line rest : List Char} {pieces : List (List Char)} (hfeed : '\n' ∉ line)
    (hreturn : line.getLast? ≠ some '\r') (h : AreLines rest pieces) :
    AreLines (line ++ '\n' :: rest) (line :: pieces)
  /-- A line is followed by a carriage return and a line feed. -/
  | returnFeed {line rest : List Char} {pieces : List (List Char)} (hfeed : '\n' ∉ line)
    (h : AreLines rest pieces) : AreLines (line ++ '\r' :: '\n' :: rest) (line :: pieces)

@[simp] theorem dropReturn_concat (line : List Char) : dropReturn (line ++ ['\r']) = line := by
  simp [dropReturn]

theorem dropReturn_of_ne (h : line.getLast? ≠ some '\r') : dropReturn line = line := by
  simp [dropReturn, h]

/-- Reading up to a line feed finishes the line that has begun. -/
theorem linesFrom_feed (begun : List Char) (h : '\n' ∉ line) (rest : List Char) :
    linesFrom begun (line ++ '\n' :: rest) = dropReturn (begun.reverse ++ line) :: lines rest := by
  induction line generalizing begun with
  | nil => simp [linesFrom, lines]
  | cons c line ih =>
      rw [List.mem_cons, not_or] at h
      rw [List.cons_append, linesFrom, if_neg (Ne.symm h.1), ih _ h.2]
      simp

/-- Reading to the end of the text leaves the line that has begun. -/
theorem linesFrom_last (begun : List Char) (h : '\n' ∉ line) (hne : begun.reverse ++ line ≠ []) :
    linesFrom begun line = [begun.reverse ++ line] := by
  induction line generalizing begun with
  | nil =>
      have hbegun : begun ≠ [] := by simpa using hne
      simp [linesFrom, hbegun]
  | cons c line ih =>
      rw [List.mem_cons, not_or] at h
      rw [linesFrom, if_neg (Ne.symm h.1), ih _ h.2 (by simp)]
      simp

theorem AreLines.eq_lines (h : AreLines text pieces) : pieces = lines text := by
  induction h with
  | nil => rfl
  | last hne hfeed => rw [lines, linesFrom_last [] hfeed (by simpa using hne)]; rfl
  | feed hfeed hreturn _ ih =>
      rw [lines, linesFrom_feed [] hfeed, List.reverse_nil, List.nil_append,
        dropReturn_of_ne hreturn, ih]
  | @returnFeed line rest pieces hfeed _ ih =>
      have hline : '\n' ∉ line ++ ['\r'] := by simpa using hfeed
      rw [List.append_cons, lines, linesFrom_feed [] hline, List.reverse_nil, List.nil_append,
        dropReturn_concat, ih]

/-- What reading gives is lines that the text is made of. -/
theorem areLines_lines (text : List Char) : AreLines text (lines text) := by
  induction hn : text.length using Nat.strongRecOn generalizing text with
  | ind n ih =>
      by_cases hfeed : '\n' ∈ text
      · obtain ⟨line, rest, rfl, hline⟩ := List.eq_append_cons_of_mem hfeed
        have hrest : AreLines rest (lines rest) := by
          refine ih rest.length ?_ rest rfl
          rw [← hn, List.length_append, List.length_cons]
          omega
        rw [lines, linesFrom_feed [] hline, List.reverse_nil, List.nil_append]
        by_cases hreturn : line.getLast? = some '\r'
        · obtain ⟨front, rfl⟩ := List.getLast?_eq_some_iff.1 hreturn
          rw [dropReturn_concat, List.append_assoc]
          exact .returnFeed (fun h => hline (List.mem_append_left _ h)) hrest
        · rw [dropReturn_of_ne hreturn]
          exact .feed hline hreturn hrest
      · by_cases hne : text = []
        · subst hne
          exact .nil
        · rw [lines, linesFrom_last [] hfeed (by simpa using hne)]
          exact .last hne hfeed

/-- A text is made of its lines and of no others. -/
theorem areLines_iff : AreLines text pieces ↔ pieces = lines text := by
  constructor
  · exact AreLines.eq_lines
  · rintro rfl
    exact areLines_lines text

/-- Lines with a line feed behind each are read back, if none of them has a break at its end. -/
theorem lines_flatMap (h : ∀ line ∈ pieces, '\n' ∉ line ∧ line.getLast? ≠ some '\r') :
    lines (pieces.flatMap (· ++ ['\n'])) = pieces := by
  refine (areLines_iff.1 ?_).symm
  induction pieces with
  | nil => exact .nil
  | cons line pieces ih =>
      rw [List.forall_mem_cons] at h
      rw [List.flatMap_cons, List.append_assoc]
      exact .feed h.1.1 h.1.2 (ih h.2)

theorem AreLines.not_mem (h : AreLines text pieces) (hline : line ∈ pieces) : '\n' ∉ line := by
  induction h with
  | nil => simp at hline
  | last hne hfeed => rwa [List.mem_singleton.1 hline]
  | feed hfeed hreturn _ ih =>
      rcases List.mem_cons.1 hline with rfl | hline
      · exact hfeed
      · exact ih hline
  | returnFeed hfeed _ ih =>
      rcases List.mem_cons.1 hline with rfl | hline
      · exact hfeed
      · exact ih hline

end EditorCore.Text
