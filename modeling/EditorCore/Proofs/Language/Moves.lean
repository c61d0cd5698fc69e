import EditorCore.Proofs.Language.Machine

/-!
# What a step of the program machine can do

Every step of the machine that highlights programs is one of twelve moves, each with the
conditions under which it is made. Proofs about runs go through the moves and do not open
the step itself.
-/

namespace EditorCore.Grammar

/-- All that a step of the machine can do. -/
inductive Moves (g : Grammar) (context : Context) (token : Token) (following : List Token) :
    State → Category → State → Prop where
  /-- A blank before a declared name. -/
  | wait {s : State} {category : Category} (name : s.name = some category)
    (blank : token.isBlank = true) :
    Moves g context token following s .plain s
  /-- The declared name. -/
  | name {s : State} {category : Category} (name : s.name = some category)
    (blank : token.isBlank = false) :
    Moves g context token following s category { s with name := none }
  /-- A token of a string that is escaped. -/
  | escaped {s : State} {opening : Char} (name : s.name = none) (quote : s.quote = some opening)
    (escaped : s.escaped = true) :
    Moves g context token following s .string { s with escaped := false }
  /-- A backslash of a string. -/
  | escape {s : State} {opening : Char} (name : s.name = none) (quote : s.quote = some opening)
    (escaped : s.escaped = false) (backslash : token = ['\\']) :
    Moves g context token following s .string { s with escaped := true }
  /-- The line break that cuts a string off. -/
  | cut {s : State} {opening : Char} (name : s.name = none) (quote : s.quote = some opening)
    (escaped : s.escaped = false) (backslash : token ≠ ['\\'])
    (lineBreak : token.hasLineBreak = true) :
    Moves g context token following s .plain { s with quote := none }
  /-- The closing quote of a string. -/
  | close {s : State} {opening : Char} (name : s.name = none) (quote : s.quote = some opening)
    (escaped : s.escaped = false) (backslash : token ≠ ['\\'])
    (lineBreak : token.hasLineBreak = false) (closing : g.quote? token = some opening) :
    Moves g context token following s .stringEnd { s with quote := none }
  /-- Any other token of a string. -/
  | body {s : State} {opening : Char} (name : s.name = none) (quote : s.quote = some opening)
    (escaped : s.escaped = false) (backslash : token ≠ ['\\'])
    (lineBreak : token.hasLineBreak = false) (closing : g.quote? token ≠ some opening) :
    Moves g context token following s .string s
  /-- A token of a comment. -/
  | comment {s : State} (name : s.name = none) (quote : s.quote = none)
    (comment : s.inComment = true) :
    Moves g context token following s .comment { s with inComment := !token.hasLineBreak }
  /-- A declaration word. -/
  | declare {s : State} {declaration : Declaration} (name : s.name = none)
    (quote : s.quote = none)
    (comment : s.inComment = false) (word : g.declaration? token = some declaration) :
    Moves g context token following s .keyword
      { s with name := g.announced? context declaration following }
  /-- A token that opens a comment. -/
  | lead {s : State} (name : s.name = none) (quote : s.quote = none) (comment : s.inComment = false)
    (word : g.declaration? token = none) (lead : g.tokenizer.opensComment token = true) :
    Moves g context token following s .comment { s with inComment := true }
  /-- A quote that opens a string. -/
  | opening {s : State} {opening : Char} (name : s.name = none) (quote : s.quote = none)
    (comment : s.inComment = false) (word : g.declaration? token = none)
    (lead : g.tokenizer.opensComment token = false) (opens : g.quote? token = some opening) :
    Moves g context token following s .string { s with quote := some opening }
  /-- A token that is styled by itself. -/
  | other {s : State} (name : s.name = none) (quote : s.quote = none)
    (comment : s.inComment = false) (word : g.declaration? token = none)
    (lead : g.tokenizer.opensComment token = false) (opens : g.quote? token = none) :
    Moves g context token following s (g.classify token) s

theorem moves_step (g : Grammar) (context : Context) (s : State) (token : Token)
    (following : List Token) :
    g.Moves context token following s (g.step context s token following).1
      (g.step context s token following).2 := by
  simp only [step]
  split
  · next category _ hname =>
      split
      · next hblank => exact .wait hname hblank
      · next hblank => exact .name hname (by simpa using hblank)
  · next opening hname hquote =>
      simp only [stringStyle]
      split
      · next hescaped => exact .escaped hname hquote hescaped
      · next hescaped =>
          have hescaped : s.escaped = false := by simpa using hescaped
          split
          · next hbackslash => exact .escape hname hquote hescaped hbackslash
          · next hbackslash =>
              split
              · next hbreak => exact .cut hname hquote hescaped hbackslash hbreak
              · next hbreak =>
                  have hbreak : token.hasLineBreak = false := by simpa using hbreak
                  split
                  · next hclose => exact .close hname hquote hescaped hbackslash hbreak hclose
                  · next hclose => exact .body hname hquote hescaped hbackslash hbreak hclose
  · next hname hquote =>
      split
      · next hcomment => exact .comment hname hquote hcomment
      · next hcomment =>
          have hcomment : s.inComment = false := by simpa using hcomment
          simp only [stepCode, wordStyle]
          split
          · next declaration hword => exact .declare hname hquote hcomment hword
          · next hword =>
              split
              · next hlead => exact .lead hname hquote hcomment hword hlead
              · next hlead =>
                  have hlead : g.tokenizer.opensComment token = false := by simpa using hlead
                  split
                  · next opening hopens => exact .opening hname hquote hcomment hword hlead hopens
                  · next hopens => exact .other hname hquote hcomment hword hlead hopens

/-- A name is announced only before an identifier. -/
theorem announced?_spec {g : Grammar} {context : Context} {declaration : Declaration}
    {following : List Token} {category : Category}
    (h : g.announced? context declaration following = some category) :
    (category = .className ∨ category = .functionName) ∧
      (following.dropWhile (·.isBlank)).head?.any (·.isIdentifier) = true := by
  simp only [announced?] at h
  split at h
  · simp at h
  · next name rest hdrop =>
      simp only [Option.ite_none_right_eq_some, Bool.and_eq_true, Option.some.injEq] at h
      refine ⟨?_, by rw [hdrop]; exact h.1.1⟩
      cases declaration with
      | classLike => exact .inl h.2.symm
      | function => exact .inr h.2.symm

end EditorCore.Grammar
