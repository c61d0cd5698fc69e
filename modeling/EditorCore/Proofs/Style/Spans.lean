import EditorCore.Proofs.Style.Surroundings
import Mathlib.Data.List.Chain

/-!
# Spans of equal style

The spans of a buffer are read off its styles byte by byte, from the last one to the first. When
a text is a row of pieces, none of them empty and no two neighbours of one style, its spans are
these pieces at their places; and every text whose characters have one style each is such a row.
-/

namespace EditorCore

/-- Characters in order, each with its style. -/
abbrev StyledChars := List (Char × Category)

namespace StyledChars

/-- The text of styled characters. -/
def text (characters : StyledChars) : List Char := characters.map (·.1)

/-- The characters of a text, all of one style. -/
def inStyle (category : Category) (text : List Char) : StyledChars := text.map (·, category)

/-- The style of each byte of styled characters. -/
def bytes (characters : StyledChars) : List Category :=
  characters.flatMap fun p => List.replicate p.1.utf8Size p.2

@[simp] theorem text_nil : text [] = [] := rfl

@[simp] theorem text_cons (p : Char × Category) (characters : StyledChars) :
    text (p :: characters) = p.1 :: text characters := rfl

@[simp] theorem text_append (front back : StyledChars) :
    text (front ++ back) = text front ++ text back := by
  simp [text]

@[simp] theorem text_inStyle (category : Category) (text : List Char) :
    (inStyle category text).text = text := by
  simp [inStyle, StyledChars.text, Function.comp_def]

@[simp] theorem bytes_nil : bytes [] = [] := rfl

@[simp] theorem bytes_cons (p : Char × Category) (characters : StyledChars) :
    bytes (p :: characters) = List.replicate p.1.utf8Size p.2 ++ bytes characters := by
  simp [bytes]

@[simp] theorem bytes_append (front back : StyledChars) :
    bytes (front ++ back) = bytes front ++ bytes back := by
  simp [bytes]

@[simp] theorem bytes_inStyle (category : Category) (text : List Char) :
    (inStyle category text).bytes = List.replicate (Text.byteLength text) category := by
  induction text with
  | nil => rfl
  | cons c text ih =>
      rw [inStyle] at ih
      simp [inStyle, ih]

/-- Every byte has a style. -/
@[simp] theorem length_bytes (characters : StyledChars) :
    characters.bytes.length = Text.byteLength characters.text := by
  induction characters with
  | nil => rfl
  | cons p characters ih => simp [ih]

/-- Styled characters can be cut wherever their text can. -/
theorem exists_append {characters : StyledChars} {front back : List Char}
    (h : characters.text = front ++ back) :
    ∃ left right, characters = left ++ right ∧ text left = front ∧ text right = back :=
  List.map_eq_append_iff.1 h

/-- All bytes of a character have its style. -/
theorem exists_category {characters : StyledChars} {front back : List Char} {c : Char}
    (h : characters.text = front ++ c :: back) :
    ∃ category, characters[front.length]? = some (c, category) ∧ ∀ offset < c.utf8Size,
      characters.bytes[Text.byteLength front + offset]? = some category := by
  obtain ⟨left, rest, rfl, rfl, hrest⟩ := exists_append h
  obtain ⟨⟨d, category⟩, right, rfl, hd, rfl⟩ := List.map_eq_cons_iff.1 hrest
  obtain rfl : d = c := hd
  refine ⟨category, by simp [text], fun offset hoffset => ?_⟩
  rw [bytes_append, ← length_bytes, List.getElem?_append_right (by omega), bytes_cons,
    List.getElem?_append_left (by simpa using hoffset)]
  simp [hoffset]

end StyledChars

namespace Styled

variable {past : Styled} {offset : Nat}

/-- The characters of styled tokens, each with the style of its token. -/
def characters (past : Styled) : StyledChars :=
  past.flatMap fun p => StyledChars.inStyle p.2 p.1

@[simp] theorem characters_nil : characters [] = [] := rfl

@[simp] theorem characters_cons (p : Token × Category) (past : Styled) :
    characters (p :: past) = StyledChars.inStyle p.2 p.1 ++ characters past := by
  simp [characters]

@[simp] theorem text_characters (past : Styled) : past.characters.text = past.text := by
  induction past with
  | nil => rfl
  | cons p past ih => simp [ih]

@[simp] theorem bytes_characters (past : Styled) : past.characters.bytes = past.bytes := by
  induction past with
  | nil => rfl
  | cons p past ih => simp [ih]

/-- Pieces that are as long as can be: none is empty, and the style changes behind each. -/
structure Alternates (past : Styled) : Prop where
  ne_nil : ∀ p ∈ past, p.1 ≠ []
  changes : past.IsChain (·.2 ≠ ·.2)

theorem Alternates.tail {p : Token × Category} (h : Alternates (p :: past)) :
    Alternates past where
  ne_nil q hq := h.ne_nil q (List.mem_cons_of_mem p hq)
  changes := h.changes.tail

/-- Every text whose characters have one style each is a row of such pieces. -/
theorem exists_alternating (characters : StyledChars) :
    ∃ past : Styled, past.characters = characters ∧ past.Alternates := by
  induction characters with
  | nil => exact ⟨[], rfl, by simp, .nil⟩
  | cons p characters ih =>
      obtain ⟨c, category⟩ := p
      obtain ⟨past, rfl, hpast⟩ := ih
      cases past with
      | nil => exact ⟨[([c], category)], rfl, by simp, .singleton _⟩
      | cons q past =>
          by_cases hsame : q.2 = category
          · refine ⟨(c :: q.1, category) :: past, by simp [← hsame, StyledChars.inStyle], ?_, ?_⟩
            · intro r hr
              rcases List.mem_cons.1 hr with rfl | hr
              · simp
              · exact hpast.tail.ne_nil r hr
            · have hchanges := hpast.changes
              rw [List.isChain_cons] at hchanges ⊢
              exact ⟨fun r hr => by rw [← hsame]; exact hchanges.1 r hr, hchanges.2⟩
          · refine ⟨([c], category) :: q :: past, by simp [StyledChars.inStyle], ?_, ?_⟩
            · intro r hr
              rcases List.mem_cons.1 hr with rfl | hr
              · simp
              · exact hpast.ne_nil r hr
            · exact .cons_cons (Ne.symm hsame) hpast.changes

/-- Pieces as spans, from an offset on. -/
def spansFrom (offset : Nat) : Styled → List Span
  | [] => []
  | (token, category) :: past =>
    ⟨offset, offset + Text.byteLength token, category⟩ ::
      spansFrom (offset + Text.byteLength token) past

end Styled

namespace Span

/-- The first span has the first style. -/
theorem map_category_head?_ofStyles (offset : Nat) (styles : List Category) :
    (ofStyles offset styles).head?.map (·.category) = styles.head? := by
  cases styles with
  | nil => rfl
  | cons category rest =>
      rw [ofStyles]
      split
      · rfl
      · split
        · rfl
        · rfl

/-- A style that is not repeated by the one behind it is a span of its own. -/
theorem ofStyles_cons {offset : Nat} {category : Category} {rest : List Category}
    (h : rest.head? ≠ some category) : ofStyles offset (category :: rest) =
      ⟨offset, offset + 1, category⟩ :: ofStyles (offset + 1) rest := by
  rw [← map_category_head?_ofStyles (offset + 1)] at h
  rw [ofStyles]
  split
  · next hnil => rw [hnil]
  · next span spans hcons =>
      rw [hcons] at h ⊢
      rw [if_neg (by simpa using h)]

/-- Bytes of one style are one span, if the style changes behind them. -/
theorem ofStyles_replicate_append (offset length : Nat) {category : Category}
    {rest : List Category} (h : rest.head? ≠ some category) :
    ofStyles offset (List.replicate (length + 1) category ++ rest) =
      ⟨offset, offset + (length + 1), category⟩ :: ofStyles (offset + (length + 1)) rest := by
  induction length generalizing offset with
  | zero => simpa using ofStyles_cons h
  | succ length ih =>
      rw [List.replicate_succ, List.cons_append, ofStyles, ih]
      simp [Nat.add_assoc, Nat.add_comm 1]

/-- Pieces that are as long as can be are the spans of their bytes. -/
theorem ofStyles_bytes {past : Styled} (h : past.Alternates) (offset : Nat) :
    ofStyles offset past.bytes = past.spansFrom offset := by
  induction past generalizing offset with
  | nil => rfl
  | cons p past ih =>
      obtain ⟨token, category⟩ := p
      obtain ⟨n, hn⟩ := Nat.exists_eq_add_of_lt
        (Text.byteLength_pos (h.ne_nil (token, category) (by simp)))
      have hnext : (Styled.bytes past).head? ≠ some category := by
        cases past with
        | nil => simp
        | cons q past =>
            obtain ⟨m, hm⟩ := Nat.exists_eq_add_of_lt
              (Text.byteLength_pos (h.ne_nil q (by simp)))
            have hchange := (List.isChain_cons.1 h.changes).1 q rfl
            simpa [hm, List.replicate_succ] using Ne.symm hchange
      rw [Nat.zero_add] at hn
      rw [Styled.bytes_cons, Styled.spansFrom, hn, ofStyles_replicate_append offset n hnext,
        ih h.tail]

end Span

/-- The ends of spans are places of the text that the pieces are of. -/
theorem Styled.places_of_mem_spansFrom {past : Styled} {span : Span} (front : List Char)
    (h : span ∈ past.spansFrom (Text.byteLength front)) :
    span.start ∈ Text.places (front ++ past.text) ∧
      span.stop ∈ Text.places (front ++ past.text) := by
  induction past generalizing front with
  | nil => simp [spansFrom] at h
  | cons p past ih =>
      obtain ⟨token, category⟩ := p
      rw [spansFrom, List.mem_cons] at h
      rcases h with rfl | h
      · exact ⟨Text.mem_places_iff.2 ⟨front, _, rfl, rfl⟩,
          Text.mem_places_iff.2 ⟨front ++ token, text past, by simp, by simp⟩⟩
      · rw [← Text.byteLength_append] at h
        simpa using ih (front ++ token) h

end EditorCore
