/-!
# Byte offsets in a text

A text is a list of characters, and a place in it is counted in UTF-8 bytes. An
offset need not be a place: it can lie beyond the end or inside a character. The
functions below answer `none` for those, so every cut that succeeds is a cut
between two characters.
-/

namespace EditorCore.Text

/-- The length of a text in UTF-8 bytes. -/
def byteLength : List Char → Nat
  | [] => 0
  | c :: cs => c.utf8Size + byteLength cs

@[simp] theorem byteLength_nil : byteLength [] = 0 := rfl

@[simp] theorem byteLength_cons (c : Char) (cs : List Char) :
    byteLength (c :: cs) = c.utf8Size + byteLength cs := rfl

@[simp] theorem byteLength_append (front back : List Char) :
    byteLength (front ++ back) = byteLength front + byteLength back := by
  induction front with
  | nil => simp
  | cons c cs ih => simp [ih, Nat.add_assoc]

/-- The two sides of a text at a byte offset, if the offset is a place in it. -/
def splitAt? : List Char → Nat → Option (List Char × List Char)
  | cs, 0 => some ([], cs)
  | [], _ + 1 => none
  | c :: cs, n + 1 =>
    if n + 1 < c.utf8Size then none
    else (splitAt? cs (n + 1 - c.utf8Size)).map fun sides => (c :: sides.1, sides.2)

/-- Every place is found: the offset of a cut is the length of its front. -/
theorem splitAt?_byteLength (front back : List Char) :
    splitAt? (front ++ back) (byteLength front) = some (front, back) := by
  induction front with
  | nil => cases back <;> rfl
  | cons c cs ih =>
    have pos : 0 < c.utf8Size := Char.utf8Size_pos c
    obtain ⟨n, hn⟩ : ∃ n, byteLength (c :: cs) = n + 1 := ⟨c.utf8Size - 1 + byteLength cs, by
      simp; omega⟩
    have rest : n + 1 - c.utf8Size = byteLength cs := by simp at hn; omega
    have wide : ¬ n + 1 < c.utf8Size := by simp at hn; omega
    rw [hn, List.cons_append, splitAt?, if_neg wide, rest, ih]
    rfl

/-- Nothing is lost by a cut, and it lies at the offset asked for. -/
theorem eq_of_splitAt? {text front back : List Char} {offset : Nat}
    (h : splitAt? text offset = some (front, back)) :
    text = front ++ back ∧ byteLength front = offset := by
  induction text generalizing front offset with
  | nil => cases offset <;> simp_all [splitAt?]
  | cons c cs ih =>
    cases offset with
    | zero => simp_all [splitAt?]
    | succ n =>
      simp only [splitAt?] at h
      split at h
      · simp at h
      · obtain ⟨⟨f, b⟩, hs, heq⟩ := Option.map_eq_some_iff.1 h
        obtain ⟨rfl, rfl⟩ := Prod.mk.inj heq
        obtain ⟨rfl, hlen⟩ := ih hs
        refine ⟨rfl, ?_⟩
        simp only [byteLength_cons]
        omega

/-- The text between two byte offsets, if both are places and in order. -/
def slice? (text : List Char) (start stop : Nat) : Option (List Char) :=
  if start ≤ stop then do
    let (_, rest) ← splitAt? text start
    let (inside, _) ← splitAt? rest (stop - start)
    pure inside
  else none

/-- The offsets of all places of a text, from the given one on. -/
def placesFrom (offset : Nat) : List Char → List Nat
  | [] => [offset]
  | c :: cs => offset :: placesFrom (offset + c.utf8Size) cs

/-- The offsets of all places of a text: before each character, and its end. -/
def places (text : List Char) : List Nat := placesFrom 0 text

end EditorCore.Text
