import EditorCore.Language.Lexer
import EditorCore.Proofs.Text.Offsets
import EditorCore.Proofs.Token.Places
import Mathlib.Data.List.DropRight

/-!
# Looking around by offsets

What is around a range is found between two cuts of the text. Here the same is done with
nothing but byte offsets: runs, tokens and lines are known by where they begin and end, each
piece of text is cut out between two offsets, and a cut at an offset that is no place fails.
Computed offsets turn out to be places: what is found by offsets is what is found between the
cuts, and a cut fails only where the place itself is none.
-/

namespace EditorCore

variable {t : Tokenizer} {text before after : List Char} {kind : CharClass}

namespace Text

theorem slice?_zero (text : List Char) (stop : Nat) :
    slice? text 0 stop = (splitAt? text stop).map (·.1) := by
  have hzero : splitAt? text 0 = some ([], text) := splitAt?_byteLength [] text
  rw [slice?, if_pos (Nat.zero_le stop), hzero]
  simp only [Option.bind_eq_bind, Option.bind_some, Nat.sub_zero]
  cases splitAt? text stop with
  | none => rfl
  | some sides => rfl

theorem slice?_byteLength (text : List Char) (start : Nat) :
    slice? text start (byteLength text) = (splitAt? text start).map (·.2) := by
  cases hsplit : splitAt? text start with
  | none => simp [slice?, hsplit]
  | some sides =>
      obtain ⟨front, back⟩ := sides
      obtain ⟨rfl, rfl⟩ := eq_of_splitAt? hsplit
      exact slice?_eq_some_iff.2 ⟨front, [], by simp, rfl, rfl⟩

/-- The text in front of a place that ends with some text is cut out by its length. -/
theorem slice?_of_suffix {token : List Char} (h : token <:+ before) (after : List Char) :
    slice? (before ++ after) (byteLength before - byteLength token) (byteLength before) =
      some token := by
  obtain ⟨front, rfl⟩ := h
  refine slice?_eq_some_iff.2 ⟨front, after, by simp, ?_, rfl⟩
  rw [byteLength_append, Nat.add_sub_cancel]

end Text

namespace Tokenizer

/-! ### Tokens -/

theorem runBefore_suffix (t : Tokenizer) (kind : CharClass) (before : List Char) :
    t.runBefore kind before <:+ before :=
  List.rtakeWhile_suffix _ before

theorem runAfter_isPrefix (t : Tokenizer) (kind : CharClass) (after : List Char) :
    t.runAfter kind after <+: after :=
  List.takeWhile_prefix _

/-- The token that ends a text is an end of the text. -/
theorem tokenBefore?_suffix {token : Token} (h : t.tokenBefore? before = some token) :
    token <:+ before := by
  obtain ⟨last, hlast, rfl⟩ := Option.map_eq_some_iff.1 h
  obtain ⟨front, rfl⟩ := List.getLast?_eq_some_iff.1 hlast
  split
  · exact List.suffix_append front [last]
  · simp only
    split
    · exact t.runBefore_suffix _ _
    · exact List.suffix_append front [last]
  · exact t.runBefore_suffix _ _

/-- The token that ends at an offset, cut out between two offsets. -/
def sliceBefore? (t : Tokenizer) (text : List Char) (offset : Nat) : Option (Option Token) := do
  let (before, _) ← Text.splitAt? text offset
  match t.tokenBefore? before with
  | none => pure none
  | some token => (Text.slice? text (offset - Text.byteLength token) offset).map some

theorem sliceBefore?_byteLength (t : Tokenizer) (before after : List Char) :
    t.sliceBefore? (before ++ after) (Text.byteLength before) = some (t.tokenBefore? before) := by
  simp only [sliceBefore?, Text.splitAt?_byteLength, Option.bind_eq_bind, Option.bind_some]
  cases htoken : t.tokenBefore? before with
  | none => rfl
  | some token =>
      simp only [Text.slice?_of_suffix (tokenBefore?_suffix htoken), Option.map_some]

/-- The ends of the token around an offset; the run of a lead is cut out to be counted. -/
def sliceAround? (t : Tokenizer) (text : List Char) (offset : Nat) :
    Option (Option (Nat × Nat)) := do
  let (before, after) ← Text.splitAt? text offset
  match before.getLast?, after.head? with
  | some last, some next =>
    let kind := t.classOf last
    if kind != t.classOf next || kind == .single then pure none
    else
      let start := offset - Text.byteLength (t.runBefore kind before)
      let stop := offset + Text.byteLength (t.runAfter kind after)
      match kind with
      | .lead c => do
        let run ← Text.slice? text start stop
        pure (if run.length < t.leastRun c then none else some (start, stop))
      | _ => pure (some (start, stop))
  | _, _ => pure none

theorem sliceAround?_byteLength (t : Tokenizer) (before after : List Char) :
    t.sliceAround? (before ++ after) (Text.byteLength before) =
      some ((t.tokenAround? before after).map fun (left, right) =>
        (Text.byteLength before - Text.byteLength left,
          Text.byteLength before + Text.byteLength right)) := by
  have hrun : ∀ kind, Text.slice? (before ++ after)
      (Text.byteLength before - Text.byteLength (t.runBefore kind before))
      (Text.byteLength before + Text.byteLength (t.runAfter kind after)) =
        some (t.runBefore kind before ++ t.runAfter kind after) := by
    intro kind
    obtain ⟨front, hfront⟩ := t.runBefore_suffix kind before
    obtain ⟨back, hback⟩ := t.runAfter_isPrefix kind after
    refine Text.slice?_eq_some_iff.2 ⟨front, back, ?_, ?_, ?_⟩
    · rw [← List.append_assoc, ← List.append_assoc, hfront, List.append_assoc, hback]
    · have hlength := congrArg Text.byteLength hfront
      rw [Text.byteLength_append] at hlength
      omega
    · rw [← List.append_assoc, hfront, Text.byteLength_append]
  simp only [sliceAround?, tokenAround?, Text.splitAt?_byteLength, Option.bind_eq_bind,
    Option.bind_some]
  cases before.getLast? with
  | none => rfl
  | some last =>
      cases after.head? with
      | none => rfl
      | some next =>
          simp only
          generalize t.classOf last = kind
          split
          · rfl
          · cases kind with
            | lead c =>
                simp only [hrun, Option.bind_some, List.length_append, Option.pure_def]
                split
                · rfl
                · rfl
            | single => rfl
            | blank => rfl
            | word => rfl

/-- The start of the token around an offset, found by offsets. -/
def sliceStart? (t : Tokenizer) (text : List Char) (offset : Nat) : Option Nat :=
  (t.sliceAround? text offset).map fun ends => (ends.map (·.1)).getD offset

/-- The end of the token around an offset, found by offsets. -/
def sliceEnd? (t : Tokenizer) (text : List Char) (offset : Nat) : Option Nat :=
  (t.sliceAround? text offset).map fun ends => (ends.map (·.2)).getD offset

theorem sliceStart?_eq (t : Tokenizer) (text : List Char) (offset : Nat) :
    t.sliceStart? text offset = t.alignStart? text offset := by
  cases hsplit : Text.splitAt? text offset with
  | none => simp [sliceStart?, sliceAround?, alignStart?, hsplit]
  | some sides =>
      obtain ⟨before, after⟩ := sides
      obtain ⟨rfl, rfl⟩ := Text.eq_of_splitAt? hsplit
      rw [sliceStart?, sliceAround?_byteLength, alignStart?_byteLength, leftOf]
      cases t.tokenAround? before after with
      | none => rfl
      | some ends => rfl

theorem sliceEnd?_eq (t : Tokenizer) (text : List Char) (offset : Nat) :
    t.sliceEnd? text offset = t.alignEnd? text offset := by
  cases hsplit : Text.splitAt? text offset with
  | none => simp [sliceEnd?, sliceAround?, alignEnd?, hsplit]
  | some sides =>
      obtain ⟨before, after⟩ := sides
      obtain ⟨rfl, rfl⟩ := Text.eq_of_splitAt? hsplit
      rw [sliceEnd?, sliceAround?_byteLength, alignEnd?_byteLength, rightOf]
      cases t.tokenAround? before after with
      | none => rfl
      | some ends => rfl

end Tokenizer

namespace Context

/-! ### Surroundings -/

/-- The last token in front of an offset that is not blank, with the offset where it begins. -/
def sliceSignificant? (t : Tokenizer) (text : List Char) (offset : Nat) :
    Option (Option (Nat × Token)) := do
  match ← t.sliceBefore? text offset with
  | none => pure none
  | some token =>
    if token.isBlank then do
      let upTo := offset - Text.byteLength token
      let earlier ← t.sliceBefore? text upTo
      pure (earlier.map fun word => (upTo - Text.byteLength word, word))
    else pure (some (offset - Text.byteLength token, token))

theorem sliceSignificant?_byteLength (t : Tokenizer) (before after : List Char) :
    sliceSignificant? t (before ++ after) (Text.byteLength before) =
      some ((significant t before).map fun (upTo, token) =>
        (Text.byteLength upTo - Text.byteLength token, token)) := by
  rw [sliceSignificant?, Tokenizer.sliceBefore?_byteLength, significant]
  cases htoken : t.tokenBefore? before with
  | none => rfl
  | some token =>
      simp only [Option.bind_eq_bind, Option.bind_some]
      split
      · obtain ⟨front, rfl⟩ := Tokenizer.tokenBefore?_suffix htoken
        have hlength : Text.byteLength (front ++ token) - Text.byteLength token =
            Text.byteLength front := by
          rw [Text.byteLength_append, Nat.add_sub_cancel]
        have htake : (front ++ token).take ((front ++ token).length - token.length) = front := by
          rw [List.length_append, Nat.add_sub_cancel, List.take_left]
        rw [hlength, htake, List.append_assoc, Tokenizer.sliceBefore?_byteLength]
        cases t.tokenBefore? front with
        | none => rfl
        | some earlier => rfl
      · rfl

/-- The surroundings of a range, found by offsets. -/
def slice? (t : Tokenizer) (buffer : Buffer) (start stop : Nat) : Option Context := do
  let before ← Text.slice? buffer.text 0 start
  let previous ← t.sliceBefore? buffer.text start
  let significant ← sliceSignificant? t buffer.text start
  let openQuote ← openQuote? buffer start
  let after ← Text.slice? buffer.text stop buffer.length
  pure {
    inComment := 0 < start && buffer.styleAt? (start - 1) == some .comment &&
      !previous.any (·.hasLineBreak)
    previous
    previousSignificant := significant.map (·.2)
    significantStyle := significant.bind fun (offset, _) => buffer.styleAt? offset
    openQuote
    escaped := openQuote.isSome && trailingBackslashes before % 2 == 1
    nextChar := after.head?
    nextInline :=
      (after.find? fun c => Text.isLineBreak c || !Text.isBlank c).filter
        (!Text.isLineBreak ·) }

/-- What is captured around a range is what is found by offsets. -/
theorem slice?_eq_capture? (t : Tokenizer) (buffer : Buffer) (start stop : Nat) :
    slice? t buffer start stop = capture? t buffer start stop := by
  rw [slice?, capture?, Text.slice?_zero, Buffer.length, Text.slice?_byteLength]
  cases hstart : Text.splitAt? buffer.text start with
  | none => rfl
  | some sides =>
      obtain ⟨before, back⟩ := sides
      obtain ⟨htext, rfl⟩ := Text.eq_of_splitAt? hstart
      rw [htext, Tokenizer.sliceBefore?_byteLength, sliceSignificant?_byteLength, ← htext]
      simp only [Option.bind_eq_bind, Option.bind_some, Option.map_some]
      cases Text.splitAt? buffer.text stop with
      | none => cases openQuote? buffer (Text.byteLength before) <;> rfl
      | some sides =>
          cases openQuote? buffer (Text.byteLength before) with
          | none => rfl
          | some quote =>
              cases significant t before <;> rfl

end Context

namespace Lexer

/-- Style a range of a buffer that is found by offsets, as are its surroundings. -/
def sliceRestyle? (lexer : Lexer) (buffer : Buffer) (start stop : Nat) : Option Buffer :=
  let stop := min stop buffer.length
  if stop ≤ start then some buffer
  else do
    let context ← Context.slice? lexer.tokenizer buffer start stop
    let range ← Text.slice? buffer.text start stop
    pure (buffer.putAll start (lexer.runs context (lexer.tokenizer.tokens range)))

theorem sliceRestyle?_eq_restyle? (lexer : Lexer) (buffer : Buffer) (start stop : Nat) :
    lexer.sliceRestyle? buffer start stop = lexer.restyle? buffer start stop := by
  simp only [sliceRestyle?, restyle?, Context.slice?_eq_capture?]

end Lexer

end EditorCore
