import EditorCore.Proofs.Language.Conservation
import EditorCore.Proofs.Style.Spans

/-!
# Spans encode styles

A list of styles has exactly one row of spans that covers it without gaps, has no empty span
and no two neighbours of one style, and tells the style of every byte: the row that is read off
it. The spans of a buffer encode its text in this way, since every operation keeps one style
for each byte, wherever the runs that it writes begin and end.
-/

namespace EditorCore

variable {offset length : Nat} {category : Category} {rest styles : List Category} {span : Span}
  {spans : List Span}

namespace Span

/-- Spans in a row between two offsets: none is empty, and each begins where the last one ends. -/
inductive Tile : Nat → Nat → List Span → Prop where
  | nil (offset : Nat) : Tile offset offset []
  | cons {start middle stop : Nat} {spans : List Span} (category : Category)
    (hne : start < middle) (h : Tile middle stop spans) :
    Tile start stop (⟨start, middle, category⟩ :: spans)

/-- Spans that say what the styles from an offset on are, each of them for as long as it can. -/
structure Encode (offset : Nat) (styles : List Category) (spans : List Span) : Prop where
  tile : Tile offset (offset + styles.length) spans
  changes : spans.IsChain (·.category ≠ ·.category)
  shows : ∀ span ∈ spans, ∀ i, span.start ≤ offset + i → offset + i < span.stop →
    styles[i]? = some span.category

namespace Tile

variable {start stop : Nat}

theorem eq_of_nil (h : Tile start stop []) : start = stop := by
  cases h with
  | nil => rfl

theorem of_cons (h : Tile start stop (span :: spans)) :
    span.start = start ∧ start < span.stop ∧ Tile span.stop stop spans := by
  cases h with
  | cons category hne h => exact ⟨rfl, hne, h⟩

theorem le (h : Tile start stop spans) : start ≤ stop := by
  induction h with
  | nil => exact Nat.le_refl _
  | cons category hne h ih => omega

/-- In a row, no span begins before the row does. -/
theorem le_start (h : Tile start stop spans) (hspan : span ∈ spans) : start ≤ span.start := by
  induction h with
  | nil => simp at hspan
  | cons category hne h ih =>
      rcases List.mem_cons.1 hspan with rfl | hspan
      · exact Nat.le_refl _
      · exact Nat.le_of_lt (Nat.lt_of_lt_of_le hne (ih hspan))

end Tile

namespace Encode

/-- The first span has the first style. -/
theorem map_category_head? (h : Encode offset styles spans) :
    spans.head?.map (·.category) = styles.head? := by
  cases spans with
  | nil =>
      have hlength := h.tile.eq_of_nil
      have hnil : styles = [] := List.eq_nil_of_length_eq_zero (by omega)
      rw [hnil]
      rfl
  | cons span spans =>
      obtain ⟨hstart, hne, -⟩ := h.tile.of_cons
      have hfirst := h.shows span List.mem_cons_self 0 (Nat.le_of_eq hstart) hne
      rw [List.head?_cons, Option.map_some, List.head?_eq_getElem?, hfirst]

/-- A span in front of others, of another style than the first of them. -/
theorem cons (hchange : rest.head? ≠ some category)
    (h : Encode (offset + (length + 1)) rest spans) :
    Encode offset (List.replicate (length + 1) category ++ rest)
      (⟨offset, offset + (length + 1), category⟩ :: spans) where
  tile := by
    refine .cons category (by omega) ?_
    simpa [Nat.add_assoc] using h.tile
  changes := by
    refine List.isChain_cons.2 ⟨fun span hspan heq => hchange ?_, h.changes⟩
    rw [← h.map_category_head?, Option.mem_def.1 hspan, Option.map_some, ← heq]
  shows := by
    intro span hspan i hstart hstop
    rcases List.mem_cons.1 hspan with rfl | hspan
    · have hlt : i < length + 1 := Nat.lt_of_add_lt_add_left hstop
      rw [List.getElem?_append_left (by simpa using hlt), List.getElem?_replicate_of_lt hlt]
    · have hfirst := h.tile.le_start hspan
      obtain ⟨j, rfl⟩ := Nat.exists_eq_add_of_le (show length + 1 ≤ i by omega)
      rw [List.getElem?_append_right (by simp), List.length_replicate, Nat.add_sub_cancel_left]
      exact h.shows span hspan j (by omega) (by omega)

variable {n : Nat}

/-- The first span says what the first styles are. -/
theorem take_eq (h : Encode offset styles (span :: spans)) (hstop : span.stop = offset + n) :
    styles.take n = List.replicate n span.category := by
  obtain ⟨hstart, -, htile⟩ := h.tile.of_cons
  have hle := htile.le
  refine List.ext_getElem? fun i => ?_
  by_cases hi : i < n
  · rw [List.getElem?_take_of_lt hi, List.getElem?_replicate_of_lt hi]
    exact h.shows span List.mem_cons_self i (by omega) (by omega)
  · rw [List.getElem?_eq_none (by simp; omega), List.getElem?_eq_none (by simp; omega)]

/-- The other spans say what the styles behind the first span are. -/
theorem tail (h : Encode offset styles (span :: spans)) (hstop : span.stop = offset + n) :
    Encode (offset + n) (styles.drop n) spans where
  tile := by
    obtain ⟨-, -, htile⟩ := h.tile.of_cons
    have hle := htile.le
    have hend : offset + n + (styles.drop n).length = offset + styles.length := by
      rw [List.length_drop]
      omega
    rw [hend, ← hstop]
    exact htile
  changes := h.changes.tail
  shows := by
    intro other hother i hstart hlast
    rw [List.getElem?_drop]
    exact h.shows other (List.mem_cons_of_mem _ hother) _ (by omega) (by omega)

/-- Behind the first span the style changes. -/
theorem head?_drop_ne (h : Encode offset styles (span :: spans))
    (hstop : span.stop = offset + n) : (styles.drop n).head? ≠ some span.category := by
  rw [← (h.tail hstop).map_category_head?]
  intro heq
  obtain ⟨next, hnext, hsame⟩ := Option.map_eq_some_iff.1 heq
  exact (List.isChain_cons.1 h.changes).1 next hnext hsame.symm

end Encode

/-! ### The spans that are read off -/

/-- Styles are a run of one style and others behind it, of which the first is different. -/
theorem exists_run (category : Category) (styles : List Category) : ∃ length rest,
    category :: styles = List.replicate (length + 1) category ++ rest ∧
      rest.head? ≠ some category := by
  induction styles with
  | nil => exact ⟨0, [], rfl, by simp⟩
  | cons next styles ih =>
      by_cases hsame : next = category
      · subst hsame
        obtain ⟨length, rest, hstyles, hchange⟩ := ih
        refine ⟨length + 1, rest, ?_, hchange⟩
        rw [hstyles, ← List.cons_append, ← List.replicate_succ]
      · exact ⟨0, next :: styles, rfl, by simpa using hsame⟩

/-- The spans that are read off styles encode them. -/
theorem encode_ofStyles (offset : Nat) (styles : List Category) :
    Encode offset styles (ofStyles offset styles) := by
  induction hn : styles.length using Nat.strong_induction_on generalizing offset styles with
  | _ n ih =>
      cases styles with
      | nil => exact ⟨.nil offset, .nil, by simp [ofStyles]⟩
      | cons category styles =>
          obtain ⟨length, rest, hstyles, hchange⟩ := exists_run category styles
          have hlt : rest.length < n := by
            rw [← hn, hstyles, List.length_append, List.length_replicate]
            omega
          rw [hstyles, ofStyles_replicate_append offset length hchange]
          exact (ih rest.length hlt _ rest rfl).cons hchange

/-- No other spans encode them. -/
theorem Encode.eq_ofStyles (h : Encode offset styles spans) : spans = ofStyles offset styles := by
  induction spans generalizing offset styles with
  | nil =>
      have hnil : styles = [] := by simpa using h.map_category_head?.symm
      rw [hnil, ofStyles]
  | cons span spans ih =>
      obtain ⟨hstart, hne, -⟩ := h.tile.of_cons
      obtain ⟨length, hstop⟩ : ∃ length, span.stop = offset + (length + 1) :=
        Nat.exists_eq_add_of_lt hne
      have hchange := h.head?_drop_ne hstop
      calc span :: spans
          = ⟨offset, offset + (length + 1), span.category⟩ ::
              ofStyles (offset + (length + 1)) (styles.drop (length + 1)) := by
            rw [← ih (h.tail hstop), ← hstop, ← hstart]
        _ = ofStyles offset (List.replicate (length + 1) span.category ++
              styles.drop (length + 1)) := (ofStyles_replicate_append offset length hchange).symm
        _ = ofStyles offset styles := by rw [← h.take_eq hstop, List.take_append_drop]

end Span

namespace Buffer

variable {buffer next : Buffer} {run : Run}

/-! ### One style for each byte -/

/-- The buffers that come out of a text when ranges are replaced and runs are written. -/
inductive Reached : Buffer → Prop where
  | ofText (text : List Char) : Reached (ofText text)
  | replace {buffer next : Buffer} {start stop : Nat} {inserted : List Char}
    (h : Reached buffer) (hnext : buffer.replace? start stop inserted = some next) : Reached next
  | seek {buffer : Buffer} (h : Reached buffer) (offset : Nat) : Reached (buffer.seek offset)
  | put {buffer next : Buffer} {run : Run} (h : Reached buffer)
    (hnext : buffer.put? run = some next) : Reached next

/-- A text that is put in brings one style for each of its bytes. -/
theorem length_styles_of_replace? {start stop : Nat} {inserted : List Char}
    (h : buffer.styles.length = buffer.length)
    (hnext : buffer.replace? start stop inserted = some next) :
    next.styles.length = next.length := by
  rw [replace?, Option.ite_none_right_eq_some] at hnext
  obtain ⟨hle, hnext⟩ := hnext
  obtain ⟨⟨before, back⟩, hstart, hnext⟩ := Option.bind_eq_some_iff.1 hnext
  obtain ⟨⟨front, after⟩, hstop, hnext⟩ := Option.bind_eq_some_iff.1 hnext
  obtain rfl := Option.some.inj hnext
  obtain ⟨-, rfl⟩ := Text.eq_of_splitAt? hstart
  obtain ⟨htext, rfl⟩ := Text.eq_of_splitAt? hstop
  have hlength : Text.byteLength buffer.text =
      Text.byteLength front + Text.byteLength after := by
    rw [htext, Text.byteLength_append]
  simp only [length, List.length_append, List.length_take, List.length_replicate,
    List.length_drop, Text.byteLength_append, h]
  omega

/-- A run of operations keeps one style for each byte. -/
theorem Reached.length_styles (h : buffer.Reached) : buffer.styles.length = buffer.length := by
  induction h with
  | ofText text => exact List.length_replicate
  | replace h hnext ih => exact length_styles_of_replace? ih hnext
  | seek h offset ih => exact ih
  | @put buffer next run h hnext ih =>
      rw [put?, Option.ite_none_right_eq_some, Option.some.injEq] at hnext
      obtain ⟨-, rfl⟩ := hnext
      rw [put_eq_putAll]
      exact (buffer.length_putAll buffer.cursor [run]).trans ih

/-- Runs that are written one behind the other lead on to a buffer that is reached. -/
theorem Reached.putAll {offset : Nat} {runs : List Run} (h : buffer.Reached)
    (hlimit : offset + (Run.styles runs).length < Text.wordLimit) :
    (buffer.putAll offset runs).Reached := by
  induction runs generalizing buffer offset with
  | nil =>
      have hsought : buffer.putAll offset [] = buffer.seek offset := by
        simp [Buffer.putAll, Run.styles, Buffer.seek]
      exact hsought ▸ h.seek offset
  | cons run runs ih =>
      have hfirst : (Run.styles [run]).length = run.length := by simp [Run.styles]
      have hall : (Run.styles (run :: runs)).length =
          run.length + (Run.styles runs).length := by
        simp [Run.styles]
      have hfits : (buffer.seek offset).cursor + run.length < Text.wordLimit := by
        simp only [Buffer.seek]
        omega
      have hwritten : (buffer.seek offset).put? run = some (buffer.putAll offset [run]) := by
        rw [put?, if_pos hfits, put_eq_putAll]
        rfl
      rw [← List.singleton_append, putAll_append, hfirst]
      exact ih ((h.seek offset).put hwritten) (by omega)

/-- A range that is styled leads on to a buffer that is reached, if offsets can count its text. -/
theorem Reached.restyle? {lexer : Lexer} {start stop : Nat} (h : buffer.Reached)
    (hlimit : buffer.length < Text.wordLimit)
    (hnext : lexer.restyle? buffer start stop = some next) : next.Reached := by
  rcases Lexer.restyle?_cases hnext with ⟨-, rfl⟩ | ⟨context, range, hrange, rfl⟩
  · exact h
  · obtain ⟨front, back, htext, rfl, hstop⟩ := Text.slice?_eq_some_iff.1 hrange
    refine h.putAll ?_
    rw [Lexer.length_styles_runs, ← Text.byteLength_append, hstop]
    omega

/--
Whatever was replaced and written, a buffer has one style for each byte of its text, and its
spans are the only ones that cover the text from its start to its end without gaps, are not
empty, have no two neighbours of one style, and tell the style of each byte.
-/
theorem reached_spans_canonical (h : buffer.Reached) :
    buffer.styles.length = buffer.length ∧
    ∀ spans : List Span,
      (Span.Tile 0 buffer.length spans ∧ spans.IsChain (·.category ≠ ·.category) ∧
        ∀ span ∈ spans, ∀ i, span.start ≤ i → i < span.stop →
          buffer.styleAt? i = some span.category) ↔ spans = buffer.spans := by
  have hlength := h.length_styles
  refine ⟨hlength, fun spans => ⟨?_, ?_⟩⟩
  · rintro ⟨htile, hchanges, hshows⟩
    refine Span.Encode.eq_ofStyles ⟨?_, hchanges, fun span hspan i hstart hstop => ?_⟩
    · rwa [hlength, Nat.zero_add]
    · rw [Nat.zero_add] at hstart hstop
      exact hshows span hspan i hstart hstop
  · rintro rfl
    obtain ⟨htile, hchanges, hshows⟩ := Span.encode_ofStyles 0 buffer.styles
    rw [hlength, Nat.zero_add] at htile
    refine ⟨htile, hchanges, fun span hspan i hstart hstop => ?_⟩
    exact hshows span hspan i (by omega) (by omega)

/-- A run that begins in the middle of a character and ends beyond the text, then an insertion. -/
theorem reached_spans_canonical_inside :
    Reached ⟨['a', 'x', 'é'], [.plain, .plain, .plain, .comment], 7⟩ ∧
    ∀ spans : List Span,
      (Span.Tile 0 4 spans ∧ spans.IsChain (·.category ≠ ·.category) ∧
        ∀ span ∈ spans, ∀ i, span.start ≤ i → i < span.stop →
          [Category.plain, .plain, .plain, .comment][i]? = some span.category) ↔
        spans = [⟨0, 3, .plain⟩, ⟨3, 4, .comment⟩] := by
  have hwritten : ((ofText ['a', 'é']).seek 2).put? ⟨5, .comment⟩ =
      some ⟨['a', 'é'], [.plain, .plain, .comment], 7⟩ := by decide +kernel
  have hreplaced : replace? ⟨['a', 'é'], [.plain, .plain, .comment], 7⟩ 1 1 ['x'] =
      some ⟨['a', 'x', 'é'], [.plain, .plain, .plain, .comment], 7⟩ := by decide +kernel
  have hreached := (((Reached.ofText ['a', 'é']).seek 2).put hwritten).replace hreplaced
  exact ⟨hreached, (reached_spans_canonical hreached).2⟩

end Buffer

end EditorCore
