import EditorCore.Proofs.Language.Pass

/-!
# Comments and strings

The regions of a text are given twice: by a grammar that says which tokens make up a comment
or a string, and by a machine that reads the tokens from the left. The two are the same, and
the styles of one pass follow the machine.
-/

namespace EditorCore

/-- What a token is, in view of the comments and strings of a text. -/
inductive Part where
  /-- A token outside of comments and strings. -/
  | code
  /-- A token of a comment. -/
  | comment
  /-- The opening quote of a string, or a token of its body. -/
  | string
  /-- The closing quote of a string. -/
  | closing
  /-- The line break that cuts a string off. -/
  | cut
deriving DecidableEq, Repr

/--
A style shows what a token is: three styles are those of comments and strings and of no other
token, and a line break that cuts a string off is plain.
-/
def Part.Shows (part : Part) (category : Category) : Prop :=
  (category = .comment ↔ part = .comment) ∧ (category = .string ↔ part = .string) ∧
    (category = .stringEnd ↔ part = .closing) ∧ (part = .cut → category = .plain)

instance (part : Part) (category : Category) : Decidable (part.Shows category) :=
  inferInstanceAs (Decidable (_ ∧ _))

theorem Part.shows_comment : comment.Shows .comment := by decide

theorem Part.shows_string : string.Shows .string := by decide

theorem Part.shows_code {category : Category}
    (h : category ∉ [Category.comment, .string, .stringEnd]) : code.Shows category := by
  simp only [List.mem_cons, List.not_mem_nil, or_false, not_or] at h
  simp [Shows, h]

/-- Tokens in order, each with what it is. -/
abbrev Marked := List (Token × Part)

/-- Tokens that are all the same. -/
def Marked.of (part : Part) (tokens : List Token) : Marked := tokens.map (·, part)

@[simp] theorem Marked.of_nil (part : Part) : of part [] = [] := rfl

@[simp] theorem Marked.of_cons (part : Part) (token : Token) (tokens : List Token) :
    of part (token :: tokens) = (token, part) :: of part tokens := rfl

@[simp] theorem Marked.of_append (part : Part) (front back : List Token) :
    of part (front ++ back) = of part front ++ of part back := List.map_append

@[simp] theorem Marked.map_fst_of (part : Part) (tokens : List Token) :
    (of part tokens).map (·.1) = tokens := by
  simp [of, Function.comp_def]

variable {t : Tokenizer} {quotes : List Char} {q : Char} {body inside tokens rest : List Token}
  {token : Token} {marked : Marked}

/-! ### The grammar of regions -/

/-- What can stand between the quotes of a string. -/
inductive StringBody (q : Char) : List Token → Prop where
  | nil : StringBody q []
  /-- A backslash, and whatever token comes next. -/
  | escape {token : Token} {body : List Token} (h : StringBody q body) :
    StringBody q (['\\'] :: token :: body)
  /-- A token that is neither the quote nor contains a line break. -/
  | token {token : Token} {body : List Token} (hbackslash : token ≠ ['\\']) (hquote : token ≠ [q])
    (hbreak : token.hasLineBreak = false) (h : StringBody q body) : StringBody q (token :: body)

/-- The regions of a text, from the left. -/
inductive Regions (t : Tokenizer) (quotes : List Char) : Marked → Prop where
  | nil : Regions t quotes []
  /-- A token that opens nothing. -/
  | code {token : Token} {rest : Marked} (hlead : t.opensComment token = false)
    (hquote : ∀ q ∈ quotes, token ≠ [q]) (h : Regions t quotes rest) :
    Regions t quotes ((token, .code) :: rest)
  /-- A comment, through the first token behind its lead that has a line break. -/
  | comment {lead last : Token} {inside : List Token} {rest : Marked}
    (hlead : t.opensComment lead = true) (hinside : ∀ token ∈ inside, token.hasLineBreak = false)
    (hlast : last.hasLineBreak = true) (h : Regions t quotes rest) :
    Regions t quotes (Marked.of .comment (lead :: (inside ++ [last])) ++ rest)
  /-- A comment that goes on to the end of the text. -/
  | lastComment {lead : Token} {inside : List Token} (hlead : t.opensComment lead = true)
    (hinside : ∀ token ∈ inside, token.hasLineBreak = false) :
    Regions t quotes (Marked.of .comment (lead :: inside))
  /-- A string with a closing quote. -/
  | closed {q : Char} {body : List Token} {rest : Marked} (hlead : t.opensComment [q] = false)
    (hquote : q ∈ quotes) (hbody : StringBody q body) (h : Regions t quotes rest) :
    Regions t quotes (Marked.of .string ([q] :: body) ++ ([q], .closing) :: rest)
  /-- A string that a line break cuts off. -/
  | cut {q : Char} {body : List Token} {last : Token} {rest : Marked}
    (hlead : t.opensComment [q] = false) (hquote : q ∈ quotes) (hbody : StringBody q body)
    (hlast : last.hasLineBreak = true) (h : Regions t quotes rest) :
    Regions t quotes (Marked.of .string ([q] :: body) ++ (last, .cut) :: rest)
  /-- A string that goes on to the end of the text. -/
  | lastString {q : Char} {body : List Token} (hlead : t.opensComment [q] = false)
    (hquote : q ∈ quotes) (hbody : StringBody q body) :
    Regions t quotes (Marked.of .string ([q] :: body))
  /-- A string that goes on to the end of the text, which is a backslash. -/
  | lastEscape {q : Char} {body : List Token} (hlead : t.opensComment [q] = false)
    (hquote : q ∈ quotes) (hbody : StringBody q body) :
    Regions t quotes (Marked.of .string ([q] :: (body ++ [['\\']])))

/-! ### The machine that reads regions -/

/-- What is open between two tokens. -/
inductive Phase where
  /-- Nothing. -/
  | code
  /-- A comment. -/
  | comment
  /-- A string with the given quote. -/
  | string (q : Char)
  /-- A string, behind a backslash. -/
  | escape (q : Char)
deriving DecidableEq, Repr

namespace Phase

/-- What a token is, and what is open behind it. -/
def read (t : Tokenizer) (quotes : List Char) : Phase → Token → Part × Phase
  | code, token =>
    if t.opensComment token then (.comment, comment)
    else
      match token.single?.filter (· ∈ quotes) with
      | some q => (.string, string q)
      | none => (.code, code)
  | comment, token => (.comment, if token.hasLineBreak then code else comment)
  | string q, token =>
    if token = ['\\'] then (.string, escape q)
    else if token.hasLineBreak then (.cut, code)
    else if token = [q] then (.closing, code)
    else (.string, string q)
  | escape q, _ => (.string, string q)

/-- What each of some tokens is. -/
def mark (t : Tokenizer) (quotes : List Char) (phase : Phase) : List Token → Marked
  | [] => []
  | token :: rest =>
    (token, (phase.read t quotes token).1) :: (phase.read t quotes token).2.mark t quotes rest

@[simp] theorem map_fst_mark (phase : Phase) (tokens : List Token) :
    (phase.mark t quotes tokens).map (·.1) = tokens := by
  induction tokens generalizing phase with
  | nil => rfl
  | cons token rest ih => simp [mark, ih]

theorem mark_comment (hinside : ∀ token ∈ inside, token.hasLineBreak = false)
    (rest : List Token) : comment.mark t quotes (inside ++ rest) =
      Marked.of .comment inside ++ comment.mark t quotes rest := by
  induction inside with
  | nil => rfl
  | cons token inside ih =>
      have htoken := hinside token List.mem_cons_self
      simp [mark, read, htoken, ih fun token hin => hinside token (List.mem_cons_of_mem _ hin)]

theorem mark_string (hbody : StringBody q body) (rest : List Token) :
    (string q).mark t quotes (body ++ rest) =
      Marked.of .string body ++ (string q).mark t quotes rest := by
  induction hbody with
  | nil => rfl
  | escape h ih => simp [mark, read, ih]
  | token hbackslash hquote hbreak h ih => simp [mark, read, hbackslash, hquote, hbreak, ih]

/-- A quote is no backslash and no line break. -/
def AreQuotes (quotes : List Char) : Prop :=
  ∀ q ∈ quotes, q ≠ '\\' ∧ Text.isLineBreak q = false

theorem read_lead (hlead : t.opensComment token = true) :
    code.read t quotes token = (.comment, comment) := by
  simp [read, hlead]

theorem read_quote (hlead : t.opensComment [q] = false) (hquote : q ∈ quotes) :
    code.read t quotes [q] = (.string, string q) := by
  have hsome : (Token.single? [q]).filter (· ∈ quotes) = some q := by
    simp [Token.single?, Option.filter, hquote]
  simp [read, hlead, hsome]

theorem read_code (hlead : t.opensComment token = false) (hquote : ∀ q ∈ quotes, token ≠ [q]) :
    code.read t quotes token = (.code, code) := by
  have hnone : token.single?.filter (· ∈ quotes) = none := by
    rw [Option.filter_eq_none_iff]
    intro q hq
    simpa using fun hmem => hquote q hmem (Token.single?_eq_some_iff.1 hq)
  simp [read, hlead, hnone]

theorem read_closing (hquotes : AreQuotes quotes) (hquote : q ∈ quotes) :
    (string q).read t quotes [q] = (.closing, code) := by
  obtain ⟨hbackslash, hbreak⟩ := hquotes q hquote
  simp [read, hbackslash, Token.hasLineBreak, Text.hasLineBreak, hbreak]

theorem read_cut (hbreak : token.hasLineBreak = true) :
    (string q).read t quotes token = (.cut, code) := by
  have hbackslash : token ≠ ['\\'] := by
    rintro rfl
    simp [Token.hasLineBreak, Text.hasLineBreak, Text.isLineBreak] at hbreak
  simp [read, hbackslash, hbreak]

end Phase

/-- The grammar leaves no choice: what it says is what the machine reads. -/
theorem Regions.eq_mark (hquotes : Phase.AreQuotes quotes) (h : Regions t quotes marked) :
    marked = Phase.code.mark t quotes (marked.map (·.1)) := by
  induction h with
  | nil => rfl
  | code hlead hquote h ih => rw [List.map_cons, Phase.mark, Phase.read_code hlead hquote, ← ih]
  | @comment lead last inside rest hlead hinside hlast h ih =>
      have hread : Phase.comment.read t quotes last = (.comment, .code) := by
        simp [Phase.read, hlast]
      simp only [Marked.of_cons, Marked.of_append, Marked.of_nil, List.cons_append,
        List.append_assoc, List.nil_append, List.map_cons, List.map_append, Marked.map_fst_of,
        Phase.mark, Phase.read_lead hlead, Phase.mark_comment hinside, hread, ← ih]
  | @lastComment lead inside hlead hinside =>
      have hall : Phase.comment.mark t quotes inside = Marked.of .comment inside := by
        simpa [Phase.mark] using Phase.mark_comment hinside []
      rw [Marked.map_fst_of, Phase.mark, Phase.read_lead hlead, hall, Marked.of_cons]
  | @closed q body rest hlead hquote hbody h ih =>
      simp only [Marked.of_cons, List.cons_append, List.map_cons, List.map_append,
        Marked.map_fst_of, Phase.mark, Phase.read_quote hlead hquote, Phase.mark_string hbody,
        Phase.read_closing hquotes hquote, ← ih]
  | @cut q body last rest hlead hquote hbody hlast h ih =>
      simp only [Marked.of_cons, List.cons_append, List.map_cons, List.map_append,
        Marked.map_fst_of, Phase.mark, Phase.read_quote hlead hquote, Phase.mark_string hbody,
        Phase.read_cut hlast, ← ih]
  | @lastString q body hlead hquote hbody =>
      have hall : (Phase.string q).mark t quotes body = Marked.of .string body := by
        simpa [Phase.mark] using Phase.mark_string hbody []
      rw [Marked.map_fst_of, Phase.mark, Phase.read_quote hlead hquote, hall, Marked.of_cons]
  | @lastEscape q body hlead hquote hbody =>
      have hlast : (Phase.string q).mark t quotes [['\\']] = [(['\\'], .string)] := by
        simp [Phase.mark, Phase.read]
      rw [Marked.map_fst_of, Phase.mark, Phase.read_quote hlead hquote, Phase.mark_string hbody,
        hlast, Marked.of_cons, Marked.of_append]
      rfl

theorem StringBody.append {more : List Token} (hbody : StringBody q body)
    (hmore : StringBody q more) : StringBody q (body ++ more) := by
  induction hbody with
  | nil => exact hmore
  | escape h ih => exact ih.escape
  | token hbackslash hquote hbreak h ih => exact ih.token hbackslash hquote hbreak

namespace Phase

/-- What the grammar still has to say behind the start of a region. -/
def Completes (t : Tokenizer) (quotes : List Char) : Phase → Marked → Prop
  | code, marked => Regions t quotes marked
  | comment, marked => ∀ lead inside, t.opensComment lead = true →
    (∀ token ∈ inside, token.hasLineBreak = false) →
    Regions t quotes (Marked.of .comment (lead :: inside) ++ marked)
  | string q, marked => ∀ body, t.opensComment [q] = false → q ∈ quotes → StringBody q body →
    Regions t quotes (Marked.of .string ([q] :: body) ++ marked)
  | escape q, marked => ∀ body, t.opensComment [q] = false → q ∈ quotes → StringBody q body →
    Regions t quotes (Marked.of .string ([q] :: (body ++ [['\\']])) ++ marked)

/-- Whatever is open, the machine reads on as the grammar says. -/
theorem completes_mark (t : Tokenizer) (quotes : List Char) (phase : Phase) (tokens : List Token) :
    phase.Completes t quotes (phase.mark t quotes tokens) := by
  induction tokens generalizing phase with
  | nil =>
      cases phase with
      | code => exact .nil
      | comment =>
          intro lead inside hlead hinside
          rw [mark, List.append_nil]
          exact .lastComment hlead hinside
      | string q =>
          intro body hlead hquote hbody
          rw [mark, List.append_nil]
          exact .lastString hlead hquote hbody
      | escape q =>
          intro body hlead hquote hbody
          rw [mark, List.append_nil]
          exact .lastEscape hlead hquote hbody
  | cons token rest ih =>
      rw [mark]
      cases phase with
      | code =>
          cases hlead : t.opensComment token with
          | true =>
              rw [read_lead hlead]
              exact ih .comment token [] hlead (by simp)
          | false =>
              by_cases hquote : ∃ q ∈ quotes, token = [q]
              · obtain ⟨q, hquote, rfl⟩ := hquote
                rw [read_quote hlead hquote]
                exact ih (.string q) [] hlead hquote .nil
              · have hquote : ∀ q ∈ quotes, token ≠ [q] := by simpa using hquote
                rw [read_code hlead hquote]
                exact .code hlead hquote (ih .code)
      | comment =>
          intro lead inside hlead hinside
          cases hbreak : token.hasLineBreak with
          | true =>
              have := Regions.comment hlead hinside hbreak (ih .code)
              simpa [read, hbreak] using this
          | false =>
              have := ih .comment lead (inside ++ [token]) hlead (by
                simpa [or_imp, forall_and, hbreak] using hinside)
              simpa [read, hbreak] using this
      | string q =>
          intro body hlead hquote hbody
          by_cases hbackslash : token = ['\\']
          · have := ih (.escape q) body hlead hquote hbody
            simpa [read, hbackslash] using this
          cases hbreak : token.hasLineBreak with
          | true =>
              have := Regions.cut hlead hquote hbody hbreak (ih .code)
              simpa [read, hbackslash, hbreak] using this
          | false =>
              by_cases hclose : token = [q]
              · have := Regions.closed hlead hquote hbody (ih .code)
                rw [hclose] at hbackslash hbreak ⊢
                simpa [read, hbackslash, hbreak] using this
              · have := ih (.string q) (body ++ [token]) hlead hquote
                  (hbody.append (.token hbackslash hclose hbreak .nil))
                simpa [read, hbackslash, hbreak, hclose] using this
      | escape q =>
          intro body hlead hquote hbody
          have := ih (.string q) (body ++ [['\\'], token]) hlead hquote
            (hbody.append (.escape .nil))
          simpa [read] using this

end Phase

/-- Every text has its regions, and only one way to have them. -/
theorem regions_iff (hquotes : Phase.AreQuotes quotes) : Regions t quotes marked ↔
    marked = Phase.code.mark t quotes (marked.map (·.1)) := by
  constructor
  · exact Regions.eq_mark hquotes
  · intro h
    rw [h]
    exact Phase.completes_mark t quotes .code _

end EditorCore
