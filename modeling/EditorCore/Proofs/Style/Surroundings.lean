import EditorCore.Style.Context
import EditorCore.Proofs.Text.Offsets
import EditorCore.Proofs.Token.Places
import Mathlib.Data.List.Induction

/-!
# What the styles in front of a place tell

The surroundings of a range are captured from the bytes of a buffer. This module says what
they are in terms of tokens: given the tokens before the range, each with the one style
that its bytes have, the capture succeeds and reads off the last token, the last token
that is not blank, whether a comment is open and which string is open.
-/

namespace EditorCore

/-- Tokens in order, each with its style. -/
abbrev Styled := List (Token × Category)

namespace Styled

variable {past : Styled} {token : Token} {category : Category}

/-- The characters of styled tokens. -/
def text (past : Styled) : List Char := (past.map (·.1)).flatten

/-- The style of each byte of styled tokens. -/
def bytes (past : Styled) : List Category :=
  past.flatMap fun p => List.replicate (Text.byteLength p.1) p.2

/-- A comment is still open behind the tokens. -/
def endsInComment (past : Styled) : Bool :=
  past.getLast?.any fun p => p.2 == .comment && !p.1.hasLineBreak

/-- The string that is still open behind the tokens, from its quote on. -/
def openString (past : Styled) : List Char :=
  text (past.reverse.takeWhile (·.2 == .string)).reverse

/-- The last of the tokens that is not blank. -/
def lastWord? (past : Styled) : Option (Token × Category) :=
  past.reverse.find? (!·.1.isBlank)

@[simp] theorem text_nil : text [] = [] := rfl

@[simp] theorem text_append (past more : Styled) :
    text (past ++ more) = text past ++ text more := by
  simp [text]

@[simp] theorem text_cons (p : Token × Category) (more : Styled) :
    text (p :: more) = p.1 ++ text more := rfl

@[simp] theorem bytes_nil : bytes [] = [] := rfl

@[simp] theorem bytes_append (past more : Styled) :
    bytes (past ++ more) = bytes past ++ bytes more := by
  simp [bytes]

@[simp] theorem bytes_cons (p : Token × Category) (more : Styled) :
    bytes (p :: more) = List.replicate (Text.byteLength p.1) p.2 ++ bytes more := by
  simp [bytes]

/-- Every byte has a style. -/
@[simp] theorem length_bytes (past : Styled) :
    past.bytes.length = Text.byteLength past.text := by
  induction past with
  | nil => rfl
  | cons p more ih => simp [ih]

@[simp] theorem endsInComment_concat : endsInComment (past ++ [(token, category)]) =
    (category == .comment && !token.hasLineBreak) := by
  simp [endsInComment]

@[simp] theorem openString_concat : openString (past ++ [(token, category)]) =
    if category = .string then openString past ++ token else [] := by
  by_cases h : category = .string <;> simp [openString, h]

@[simp] theorem lastWord?_concat : lastWord? (past ++ [(token, category)]) =
    if token.isBlank then lastWord? past else some (token, category) := by
  cases h : token.isBlank <;> simp [lastWord?, h]

/-- The last byte has the style of the last token. -/
theorem getLast?_bytes (hne : ∀ p ∈ past, p.1 ≠ []) :
    past.bytes.getLast? = past.getLast?.map (·.2) := by
  rcases past.eq_nil_or_concat' with rfl | ⟨front, p, rfl⟩
  · rfl
  · have hpos := Text.byteLength_pos (hne p (by simp))
    simp [List.getLast?_replicate, Nat.ne_of_gt hpos]

/-- The bytes of the open string are the last ones that are styled as string. -/
theorem length_takeWhile_bytes (hne : ∀ p ∈ past, p.1 ≠ []) :
    (past.bytes.reverse.takeWhile (· == .string)).length =
      Text.byteLength past.openString := by
  induction past using List.reverseRecOn with
  | nil => rfl
  | append_singleton past p ih =>
      obtain ⟨token, category⟩ := p
      have hpos := Text.byteLength_pos (hne (token, category) (by simp))
      have ih := ih fun p hp => hne p (List.mem_append_left _ hp)
      by_cases h : category = .string
      · subst h
        have hall : ∀ c ∈ List.replicate (Text.byteLength token) Category.string,
            (c == Category.string) = true := fun c hc => by simp [List.eq_of_mem_replicate hc]
        rw [bytes_append, bytes_cons, bytes_nil, List.append_nil, List.reverse_append,
          List.reverse_replicate, List.takeWhile_append_of_pos hall]
        simp [ih, Nat.add_comm]
      · obtain ⟨n, hn⟩ := Nat.exists_eq_add_of_lt hpos
        rw [openString_concat, if_neg h, bytes_append, bytes_cons, bytes_nil, List.append_nil,
          List.reverse_append, List.reverse_replicate, hn, List.replicate_succ, List.cons_append,
          List.takeWhile_cons_of_neg (by simpa using h)]
        rfl

/-- The text ends with the open string. -/
theorem openString_suffix (past : Styled) : past.openString <:+ past.text := by
  induction past using List.reverseRecOn with
  | nil => exact List.suffix_rfl
  | append_singleton past p ih =>
      rw [openString_concat]
      split
      · obtain ⟨front, hfront⟩ := ih
        exact ⟨front, by rw [text_append, ← hfront]; simp⟩
      · exact List.nil_suffix

end Styled

namespace Context

/-- What a range sees of the styled tokens before it and of the text behind it. -/
def around (past : Styled) (after : List Char) : Context where
  inComment := past.endsInComment
  previous := past.getLast?.map (·.1)
  previousSignificant := past.lastWord?.map (·.1)
  significantStyle := past.lastWord?.map (·.2)
  openQuote := past.openString.head?
  escaped := past.openString.head?.isSome && trailingBackslashes past.text % 2 == 1
  nextChar := after.head?
  nextInline :=
    (after.find? fun c => Text.isLineBreak c || !Text.isBlank c).filter (!Text.isLineBreak ·)

variable {t : Tokenizer} {past : Styled} {buffer : Buffer} {middle after : List Char}
  {more : List Category}

theorem ne_nil_of_tokens_eq (htokens : t.tokens past.text = past.map (·.1)) :
    ∀ p ∈ past, p.1 ≠ [] := fun _ hp =>
  Tokenizer.ne_nil_of_mem_tokens (htokens ▸ List.mem_map_of_mem hp)

/-- The first byte of a token has the style of the token. -/
theorem styleAt?_of_styles_eq (past later : Styled) {token : Token} {category : Category}
    (hne : token ≠ [])
    (hstyles : buffer.styles = (past ++ (token, category) :: later).bytes ++ more) :
    buffer.styleAt? (Text.byteLength past.text) = some category := by
  obtain ⟨n, hn⟩ := Nat.exists_eq_add_of_lt (Text.byteLength_pos hne)
  rw [Buffer.styleAt?, hstyles, Styled.bytes_append, List.append_assoc,
    List.getElem?_append_right (by simp)]
  simp [hn, List.replicate_succ]

/-- The open string is found from its bytes. -/
theorem openQuote?_eq (hne : ∀ p ∈ past, p.1 ≠ []) (htext : buffer.text = past.text ++ after)
    (hstyles : buffer.styles = past.bytes ++ more) :
    openQuote? buffer (Text.byteLength past.text) = some past.openString.head? := by
  have htake : buffer.styles.take (Text.byteLength past.text) = past.bytes := by
    rw [hstyles, ← Styled.length_bytes, List.take_left']
    rfl
  obtain ⟨front, hfront⟩ := past.openString_suffix
  have hlength : Text.byteLength past.text =
      Text.byteLength front + Text.byteLength past.openString := by
    rw [← hfront, Text.byteLength_append]
  have hstart : stringStart buffer.styles (Text.byteLength past.text) = Text.byteLength front := by
    rw [stringStart, htake, Styled.length_takeWhile_bytes hne]
    omega
  simp only [openQuote?, hstart]
  split
  · next h =>
      have hnil : past.openString = [] := Text.byteLength_eq_zero.1 (by omega)
      rw [hnil, List.head?_nil]
  · rw [htext, ← hfront, List.append_assoc, Text.byteLength_append, Text.slice?_eq]
    rfl

/-- An open comment is found from the last byte, and from the last token. -/
theorem endsInComment_eq (hne : ∀ p ∈ past, p.1 ≠ [])
    (hstyles : buffer.styles = past.bytes ++ more) :
    (decide (0 < Text.byteLength past.text) &&
      buffer.styleAt? (Text.byteLength past.text - 1) == some .comment &&
        !(past.getLast?.map (·.1)).any (·.hasLineBreak)) = past.endsInComment := by
  rcases past.eq_nil_or_concat' with rfl | ⟨front, ⟨token, category⟩, rfl⟩
  · rfl
  · have hpos : 0 < Text.byteLength token :=
      Text.byteLength_pos (hne (token, category) (by simp))
    have hlast : buffer.styleAt?
        (Text.byteLength (Styled.text (front ++ [(token, category)])) - 1) = some category := by
      have hbytes := Styled.getLast?_bytes hne
      rw [List.getLast?_eq_getElem?, Styled.length_bytes, List.getLast?_concat,
        Option.map_some] at hbytes
      rw [Buffer.styleAt?, hstyles, List.getElem?_append_left (by simp; omega), hbytes]
    have hlong : 0 < Text.byteLength (Styled.text (front ++ [(token, category)])) := by
      simp
      omega
    simp only [hlast, hlong, decide_true, Bool.true_and, List.getLast?_concat, Option.map_some,
      Option.any_some, Styled.endsInComment_concat, Option.some_beq_some]

/-- The last token that is not blank is found by looking back at most twice. -/
theorem significant_eq (ht : t.IsOrderly) (htokens : t.tokens past.text = past.map (·.1))
    (hstyles : buffer.styles = past.bytes ++ more) :
    (significant t past.text).map (·.2) = past.lastWord?.map (·.1) ∧
      ((significant t past.text).bind fun (upTo, token) =>
        buffer.styleAt? (Text.byteLength upTo - Text.byteLength token)) =
      past.lastWord?.map (·.2) := by
  rcases past.eq_nil_or_concat' with rfl | ⟨front, ⟨token, category⟩, rfl⟩
  · exact ⟨rfl, rfl⟩
  have hlast : t.tokenBefore? (Styled.text (front ++ [(token, category)])) = some token := by
    rw [t.tokenBefore?_eq_getLast? ht, htokens]
    simp
  have hne := ne_nil_of_tokens_eq htokens
  rw [significant, hlast, Styled.lastWord?_concat]
  by_cases hblank : token.isBlank
  · -- the token before a blank one is not blank, so one more look back is enough
    have hfront : t.tokens (Styled.text front) = front.map (·.1) := by
      rw [List.map_append] at htokens
      exact (Tokenizer.tokens_flatten htokens).1
    simp only [hblank, if_true, Styled.text_append, Styled.text_cons, Styled.text_nil,
      List.append_nil, List.length_append, Nat.add_sub_cancel, List.take_left]
    rw [t.tokenBefore?_eq_getLast? ht, hfront]
    rcases front.eq_nil_or_concat' with rfl | ⟨earlier, ⟨word, style⟩, rfl⟩
    · exact ⟨rfl, rfl⟩
    · have hword : word.isBlank = false := by
        have hpair : t.tokens (Styled.text (earlier ++ [(word, style)] ++ [(token, category)])) =
            earlier.map (·.1) ++ word :: token :: [] := by
          rw [htokens]
          simp
        by_contra h
        have := Tokenizer.not_isBlank_of_tokens_eq ht hpair (by simpa using h)
        simp [hblank] at this
      have hat : buffer.styleAt? (Text.byteLength (Styled.text earlier)) = some style :=
        styleAt?_of_styles_eq earlier [(token, category)] (hne (word, style) (by simp))
          (by simpa using hstyles)
      simp [hword, hat]
  · have hat := styleAt?_of_styles_eq front [] (hne (token, category) (by simp)) hstyles
    simp [hblank, hat]

/--
The capture succeeds, wherever the range ends, and what it finds is what the tokens and their
styles say.
-/
theorem capture?_of_splitAt? (ht : t.IsOrderly) (htokens : t.tokens past.text = past.map (·.1))
    {rest upTo : List Char} {stop : Nat} (htext : buffer.text = past.text ++ rest)
    (hstyles : buffer.styles = past.bytes ++ more)
    (hstop : Text.splitAt? buffer.text stop = some (upTo, after)) :
    capture? t buffer (Text.byteLength past.text) stop = some (around past after) := by
  have hne := ne_nil_of_tokens_eq htokens
  have hstart : Text.splitAt? buffer.text (Text.byteLength past.text) =
      some (past.text, rest) := by
    rw [htext, Text.splitAt?_byteLength]
  obtain ⟨hword, hstyle⟩ := significant_eq ht htokens hstyles
  have hprevious : t.tokenBefore? past.text = past.getLast?.map (·.1) := by
    rw [t.tokenBefore?_eq_getLast? ht, htokens, List.getLast?_map]
  have hcomment := endsInComment_eq hne hstyles
  rw [capture?, hstart, hstop, openQuote?_eq hne htext hstyles]
  simp only [Option.bind_eq_bind, Option.bind_some, hprevious, hword, hstyle, hcomment]
  rfl

/-- The same, for a range that is given by the text in it. -/
theorem capture?_eq_around (ht : t.IsOrderly) (htokens : t.tokens past.text = past.map (·.1))
    (htext : buffer.text = past.text ++ (middle ++ after))
    (hstyles : buffer.styles = past.bytes ++ more) :
    capture? t buffer (Text.byteLength past.text)
      (Text.byteLength past.text + Text.byteLength middle) = some (around past after) := by
  have hstop : Text.splitAt? buffer.text
      (Text.byteLength past.text + Text.byteLength middle) = some (past.text ++ middle, after) := by
    rw [htext, ← List.append_assoc, ← Text.byteLength_append, Text.splitAt?_byteLength]
  exact capture?_of_splitAt? ht htokens htext hstyles hstop

end Context

end EditorCore
