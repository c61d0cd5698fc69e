import EditorCore.Style.Buffer
import EditorCore.Token.Basic

/-!
# Walking over tokens

A cursor hands out the tokens of a range one by one. It can look ahead at the tokens that are
still to come, and back at the token before the one that it handed out last.
-/

namespace EditorCore

/-- The run that gives a token a style. -/
def Token.run (token : Token) (category : Category) : Run := ⟨Text.byteLength token, category⟩

/-- The tokens of a range, parted where a walk over them has come to. -/
structure Cursor where
  /-- The tokens that were handed out, the last one first. -/
  taken : List Token
  /-- The tokens that are still to come. -/
  rest : List Token
  /-- The token in front of the range. -/
  before : Option Token
deriving DecidableEq, Repr

namespace Cursor

/-- The cursor in front of the tokens of a range. -/
def ofTokens (tokens : List Token) (before : Option Token) : Cursor := ⟨[], tokens, before⟩

/-- Hand out the next token. -/
def next? (cursor : Cursor) : Option (Token × Cursor) :=
  match cursor.rest with
  | [] => none
  | token :: rest => some (token, { cursor with taken := token :: cursor.taken, rest })

/-- The token that is so many tokens further on. -/
def peek? (cursor : Cursor) (n : Nat) : Option Token := cursor.rest[n]?

/-- The token before the one that was handed out last. -/
def previous? (cursor : Cursor) : Option Token :=
  match cursor.taken with
  | _ :: earlier :: _ => some earlier
  | _ => cursor.before

/-- The next token that is not blank, with the number of those in front of it. -/
def skipBlanks? (cursor : Cursor) : Option (Nat × Token) :=
  let skipped := (cursor.rest.takeWhile (·.isBlank)).length
  (cursor.peek? skipped).map fun token => (skipped, token)

/-- Hand out so many tokens, or those that are left. -/
def advance (cursor : Cursor) (n : Nat) : List Token × Cursor :=
  (cursor.rest.take n,
    { cursor with
      taken := (cursor.rest.take n).reverse ++ cursor.taken
      rest := cursor.rest.drop n })

theorem eq_of_next? {cursor further : Cursor} {token : Token}
    (h : cursor.next? = some (token, further)) : cursor.rest = token :: further.rest ∧
      further = { cursor with taken := token :: cursor.taken, rest := further.rest } := by
  rw [next?] at h
  split at h
  · simp at h
  · next first rest hrest =>
      obtain ⟨rfl, rfl⟩ := Prod.mk.inj (Option.some.inj h)
      exact ⟨hrest, rfl⟩

theorem rest_eq_nil_of_next? {cursor : Cursor} (h : cursor.next? = none) : cursor.rest = [] := by
  rw [next?] at h
  split at h
  · next hrest => exact hrest
  · simp at h

theorem length_rest_of_next? {cursor further : Cursor} {token : Token}
    (h : cursor.next? = some (token, further)) : further.rest.length < cursor.rest.length := by
  simp [(eq_of_next? h).1]

theorem length_rest_advance_le (cursor : Cursor) (n : Nat) :
    (cursor.advance n).2.rest.length ≤ cursor.rest.length := by
  simp [advance]

end Cursor

end EditorCore
