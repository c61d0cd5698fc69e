import EditorCore.Paint
import EditorCore.Proofs.Document.Characters
import EditorCore.Proofs.Text.Decimal
import EditorCore.Theme.Builtin

/-!
# What a painted text shows

A terminal draws characters with the pen that the control sequences before them have selected. A
painted document makes it draw the text of the document, each character with the look that the
theme gives to its style, and leaves it with the pen that it has by itself.
-/

namespace EditorCore

/-! ### Terminals -/

/-- A color as a terminal is told it. -/
inductive Ink where
  /-- What the terminal draws with by itself. -/
  | standard
  /-- A color of the palette, by its number. -/
  | indexed (number : Nat)
  /-- A color by its red, green and blue parts. -/
  | rgb (red green blue : Nat)
deriving DecidableEq, Repr

/-- The color of a theme as a terminal knows it; the palette has its sixteen usual colors. -/
def Ink.ofColor : Color → Ink
  | .standard => .standard
  | .black => .indexed 0
  | .red => .indexed 1
  | .green => .indexed 2
  | .yellow => .indexed 3
  | .blue => .indexed 4
  | .magenta => .indexed 5
  | .cyan => .indexed 6
  | .white => .indexed 7
  | .brightBlack => .indexed 8
  | .brightBlue => .indexed 12
  | .brightMagenta => .indexed 13
  | .rgb red green blue => .rgb red.toNat green.toNat blue.toNat

/-- What a terminal draws a character with. -/
structure Pen where
  /-- The color of the character. -/
  foreground : Ink
  /-- The color behind it. -/
  background : Ink
  /-- Whether it is bold. -/
  bold : Bool
deriving DecidableEq, Repr

namespace Pen

/-- The pen that a terminal has by itself. -/
def standard : Pen := ⟨.standard, .standard, false⟩

/-- A pen with another color, for the characters or for what is behind them. -/
def withInk (pen : Pen) (behind : Bool) (ink : Ink) : Pen :=
  if behind then { pen with background := ink } else { pen with foreground := ink }

/-- The pen that the parameters of a selection make of a pen; those unknown are passed over. -/
def select (pen : Pen) : List Nat → Pen
  | 0 :: rest => standard.select rest
  | 1 :: rest => select { pen with bold := true } rest
  | 22 :: rest => select { pen with bold := false } rest
  | 38 :: 5 :: number :: rest => (pen.withInk false (.indexed number)).select rest
  | 38 :: 2 :: red :: green :: blue :: rest => (pen.withInk false (.rgb red green blue)).select rest
  | 39 :: rest => (pen.withInk false .standard).select rest
  | 48 :: 5 :: number :: rest => (pen.withInk true (.indexed number)).select rest
  | 48 :: 2 :: red :: green :: blue :: rest => (pen.withInk true (.rgb red green blue)).select rest
  | 49 :: rest => (pen.withInk true .standard).select rest
  | _ :: rest => pen.select rest
  | [] => pen

/-- A pen for a look; without a background, what is behind the characters stays as it is. -/
def withLook (pen : Pen) (background : Bool) (look : Look) : Pen where
  foreground := .ofColor look.foreground
  background := if background then .ofColor look.background else pen.background
  bold := look.bold

@[simp] theorem withLook_withLook (pen : Pen) (background : Bool) (look other : Look) :
    (pen.withLook background look).withLook background other = pen.withLook background other := by
  cases background <;> rfl

end Pen

/-- What a terminal waits for. -/
inductive Pending where
  /-- A character to draw, or the start of a control sequence. -/
  | text
  /-- What comes behind an escape character. -/
  | escape
  /-- More of a control sequence that has some parameters and the digits of one. -/
  | control (parameters : List Nat) (digits : Nat)
deriving DecidableEq, Repr

/-- A terminal with what it has drawn. -/
structure Terminal where
  /-- The characters that were drawn, each with its pen. -/
  shown : List (Char × Pen)
  /-- The pen for the characters to come. -/
  pen : Pen
  /-- What comes next. -/
  pending : Pending
deriving DecidableEq, Repr

namespace Terminal

/-- The character that control sequences begin with. -/
def escape : Char := '\x1b'

/-- A terminal with a pen, on which nothing is drawn. -/
def blank (pen : Pen) : Terminal := ⟨[], pen, .text⟩

/-- One character is drawn, or goes into a control sequence; other sequences draw nothing. -/
def feed (terminal : Terminal) (c : Char) : Terminal :=
  match terminal.pending with
  | .text =>
    if c = escape then { terminal with pending := .escape }
    else { terminal with shown := terminal.shown ++ [(c, terminal.pen)] }
  | .escape =>
    if c = '[' then { terminal with pending := .control [] 0 }
    else { terminal with pending := .text }
  | .control parameters digits =>
    if c.isDigit then
      { terminal with pending := .control parameters (10 * digits + (c.toNat - '0'.toNat)) }
    else if c = ';' then { terminal with pending := .control (parameters ++ [digits]) 0 }
    else if c = 'm' then
      { terminal with pen := terminal.pen.select (parameters ++ [digits]), pending := .text }
    else { terminal with pending := .text }

/-- The terminal behind the characters of a text. -/
def read (terminal : Terminal) (text : List Char) : Terminal := text.foldl feed terminal

variable {text : List Char} {shown : List (Char × Pen)} {pen : Pen}

@[simp] theorem read_nil (terminal : Terminal) : terminal.read [] = terminal := rfl

@[simp] theorem read_cons (terminal : Terminal) (c : Char) (text : List Char) :
    terminal.read (c :: text) = (terminal.feed c).read text := rfl

@[simp] theorem read_append (terminal : Terminal) (front back : List Char) :
    terminal.read (front ++ back) = (terminal.read front).read back :=
  List.foldl_append

/-- Text without an escape character is drawn as it is. -/
theorem read_text (h : escape ∉ text) :
    (⟨shown, pen, .text⟩ : Terminal).read text = ⟨shown ++ text.map (·, pen), pen, .text⟩ := by
  induction text generalizing shown with
  | nil => simp
  | cons c text ih =>
      rw [List.mem_cons, not_or] at h
      rw [read_cons, feed, if_neg (Ne.symm h.1), ih h.2]
      simp

/-- Digits go on with the number that has begun. -/
theorem read_digits (parameters : List Nat) {digits : List Char}
    (h : ∀ c ∈ digits, c.isDigit = true) (begun : Nat) :
    (⟨shown, pen, .control parameters begun⟩ : Terminal).read digits =
      ⟨shown, pen, .control parameters (Nat.ofDigitChars 10 digits begun)⟩ := by
  induction digits generalizing begun with
  | nil => simp
  | cons c digits ih =>
      rw [List.forall_mem_cons] at h
      simp [feed, h.1, ih h.2, Nat.ofDigitChars]

/-- The digits of a number are read as that number. -/
theorem read_toString (parameters : List Nat) (n : Nat) :
    (⟨shown, pen, .control parameters 0⟩ : Terminal).read (toString n).toList =
      ⟨shown, pen, .control parameters n⟩ := by
  rw [read_digits parameters fun c hc => Text.isDigit_of_mem_toString hc]
  simp [Nat.toString_eq_repr]

/-! ### Painted spans -/

/-- A control sequence selects what its parameters say. -/
theorem read_select (shown : List (Char × Pen)) (pen : Pen) (parameters : String) :
    (⟨shown, pen, .text⟩ : Terminal).read (Paint.select parameters) =
      ((⟨shown, pen, .control [] 0⟩ : Terminal).read parameters.toList).feed 'm' := by
  rw [Paint.select, List.cons_append, List.cons_append, read_cons, read_cons, read_append]
  rfl

/-- The sequence of a color makes the terminal draw with that color. -/
theorem read_color (shown : List (Char × Pen)) (pen : Pen) (behind : Bool) (color : Color) :
    (⟨shown, pen, .text⟩ : Terminal).read (Paint.select (Paint.colorParameters behind color)) =
      ⟨shown, pen.withInk behind (.ofColor color), .text⟩ := by
  cases color with
  | rgb red green blue =>
      have hlead : (⟨shown, pen, .control [] 0⟩ : Terminal).read
          ((if behind then "4" else "3") ++ "8;2;").toList =
            ⟨shown, pen, .control [if behind then 48 else 38, 2] 0⟩ := by
        cases behind <;> rfl
      have hbetween : ∀ (parameters : List Nat) (n : Nat),
          (⟨shown, pen, .control parameters n⟩ : Terminal).read ";".toList =
            ⟨shown, pen, .control (parameters ++ [n]) 0⟩ := fun _ _ => rfl
      rw [read_select, Paint.colorParameters, String.toList_append, String.toList_append,
        String.toList_append, String.toList_append, String.toList_append, read_append, read_append,
        read_append, read_append, read_append, hlead, read_toString, hbetween, read_toString,
        hbetween, read_toString]
      cases behind <;> rfl
  | _ => cases behind <;> rfl

theorem read_weight (shown : List (Char × Pen)) (pen : Pen) (bold : Bool) :
    (⟨shown, pen, .text⟩ : Terminal).read (Paint.select (Paint.weightParameters bold)) =
      ⟨shown, { pen with bold }, .text⟩ := by
  cases bold <;> rfl

theorem read_reset (shown : List (Char × Pen)) (pen : Pen) :
    (⟨shown, pen, .text⟩ : Terminal).read Paint.reset = ⟨shown, .standard, .text⟩ := rfl

/-- A painted text is drawn in its look. -/
theorem read_span (background : Bool) (look : Look) (h : escape ∉ text) :
    (⟨shown, pen, .text⟩ : Terminal).read (Paint.span background look text) =
      ⟨shown ++ text.map (·, pen.withLook background look), pen.withLook background look,
        .text⟩ := by
  rw [Paint.span, read_append, read_append, read_append, read_color]
  cases background with
  | false =>
    rw [if_neg (by simp), read_nil, read_weight, read_text h]
    rfl
  | true =>
    rw [if_pos rfl, read_color, read_weight, read_text h]
    rfl

/-- Painted pieces are drawn one behind the other, each in the look of its style. -/
theorem read_pieces (shown : List (Char × Pen)) (pen : Pen) (background : Bool)
    (look : Category → Look) {past : Styled} (h : escape ∉ past.text) {base : Pen}
    (hpen : ∀ look, pen.withLook background look = base.withLook background look) :
    ∃ last, (⟨shown, pen, .text⟩ : Terminal).read
        (past.flatMap fun p => Paint.span background (look p.2) p.1) =
      ⟨shown ++ past.characters.map fun p => (p.1, base.withLook background (look p.2)), last,
        .text⟩ := by
  induction past generalizing shown pen with
  | nil => exact ⟨pen, by simp⟩
  | cons p past ih =>
      rw [Styled.text_cons, List.mem_append, not_or] at h
      have hnext : ∀ other, (pen.withLook background (look p.2)).withLook background other =
          base.withLook background other := by
        intro other
        rw [Pen.withLook_withLook, hpen]
      obtain ⟨last, hlast⟩ := ih (shown ++ p.1.map (·, pen.withLook background (look p.2)))
        (pen.withLook background (look p.2)) h.2 hnext
      refine ⟨last, ?_⟩
      rw [List.flatMap_cons, read_append, read_span background _ h.1, hlast, hpen]
      simp [StyledChars.inStyle, Function.comp_def]

end Terminal

namespace Paint

/-- Spans that are pieces of a text are painted as these pieces. -/
theorem spans?_spansFrom (theme : Theme) (registry : Registry) (background : Bool)
    (front : List Char) (past : Styled) :
    spans? theme registry background (front ++ past.text)
        (past.spansFrom (Text.byteLength front)) =
      some (past.flatMap fun p =>
        span background (theme.lookOf p.2 (registry.isBold p.2)) p.1) := by
  induction past generalizing front with
  | nil => rfl
  | cons p past ih =>
      obtain ⟨token, category⟩ := p
      have hrest := ih (front ++ token)
      rw [Text.byteLength_append, List.append_assoc] at hrest
      rw [Styled.spansFrom, Styled.text_cons, spans?, Text.slice?_eq, hrest]
      rfl

variable {document : Document}

/--
Whatever lexer a document was begun with and whatever was done with it, every character has one
style for all of its bytes, so that spans begin and end between characters and the document can
be painted. If no character of the text is an escape character, a terminal that reads what was
painted, whatever its pen, shows just the text: each character in the colors and the weight that
the theme gives to its style, the background only if that is asked for. It is left with the pen
that it has by itself.
-/
theorem painted_shows (h : document.Arises) (theme : Theme) (background : Bool) (pen : Pen) :
    (∀ front c back, document.text = front ++ c :: back → ∃ category, ∀ offset < c.utf8Size,
      document.buffer.styleAt? (Text.byteLength front + offset) = some category) ∧
    (∀ span ∈ document.buffer.spans,
      span.start ∈ Text.places document.text ∧ span.stop ∈ Text.places document.text) ∧
    ∃ painted, document? theme background document = some painted ∧
      (Terminal.escape ∉ document.text → ∃ shown,
        (Terminal.blank pen).read painted = ⟨shown, .standard, .text⟩ ∧
        shown.map (·.1) = document.text ∧
        ∀ front c back category, document.text = front ++ c :: back →
          document.buffer.styleAt? (Text.byteLength front) = some category →
          shown[front.length]? = some (c, pen.withLook background
            (theme.lookOf category (document.lexer.registry.isBold category)))) := by
  obtain ⟨characters, htext, hstyles⟩ := h.isWhole
  obtain ⟨past, rfl, hpast⟩ := Styled.exists_alternating characters
  rw [Styled.text_characters] at htext
  rw [Styled.bytes_characters] at hstyles
  have hspans : document.buffer.spans = past.spansFrom 0 := by
    rw [Buffer.spans, hstyles, Span.ofStyles_bytes hpast]
  have htext : document.text = past.text := htext
  have hcut : ∀ {front back : List Char} {c : Char}, document.text = front ++ c :: back →
      ∃ category, past.characters[front.length]? = some (c, category) ∧ ∀ offset < c.utf8Size,
        document.buffer.styleAt? (Text.byteLength front + offset) = some category := by
    intro front back c hfront
    rw [htext, ← Styled.text_characters] at hfront
    simp only [Buffer.styleAt?, hstyles, ← Styled.bytes_characters]
    exact StyledChars.exists_category hfront
  refine ⟨fun front c back hfront => ?_, ?_, ?_⟩
  · obtain ⟨category, -, hcategory⟩ := hcut hfront
    exact ⟨category, hcategory⟩
  · intro span hspan
    rw [hspans] at hspan
    rw [htext]
    exact Styled.places_of_mem_spansFrom [] hspan
  let look := fun category => theme.lookOf category (document.lexer.registry.isBold category)
  have hpainted := spans?_spansFrom theme document.lexer.registry background [] past
  refine ⟨(past.flatMap fun p => span background (look p.2) p.1) ++ reset, ?_, ?_⟩
  · rw [document?, hspans, htext]
    exact congrArg (Option.map (· ++ reset)) hpainted
  · intro hescape
    rw [htext] at hescape
    obtain ⟨last, hlast⟩ := Terminal.read_pieces [] pen background look hescape fun _ => rfl
    refine ⟨past.characters.map fun p => (p.1, pen.withLook background (look p.2)), ?_, ?_, ?_⟩
    · rw [Terminal.read_append, Terminal.blank, hlast, Terminal.read_reset]
      rfl
    · rw [List.map_map, htext, ← Styled.text_characters]
      rfl
    · intro front c back category hfront hstyle
      obtain ⟨own, hthere, hown⟩ := hcut hfront
      obtain rfl : category = own := by
        rw [← Nat.add_zero (Text.byteLength front), hown 0 (Char.utf8Size_pos c)] at hstyle
        exact (Option.some.inj hstyle).symm
      rw [List.getElem?_map, hthere]
      rfl

/-- A language with comments behind number signs, quotes of two bytes and one keyword. -/
def quoting : Grammar where
  kind := .c
  name := "Quoting"
  commentLeads := [.hash]
  keywords := ["if"]
  constants := []
  builtins := []
  declarations := []
  classFollowers := []
  quotes := ['«']
  brackets := []
  operators := []

/-- A string put in front of a keyword is drawn in its color, and the keyword stays bold. -/
theorem painted_shows_quoted : ∃ document painted shown,
    (Document.Operation.insert 0 ['«', 'é', '«']).result?
      (.ofText ['i', 'f'] (.program quoting)) = some document ∧
    document? .builtinDark true document = some painted ∧
    (Terminal.blank .standard).read painted = ⟨shown, .standard, .text⟩ ∧
    shown.map (·.1) = ['«', 'é', '«', 'i', 'f'] ∧
    shown[1]? = some ('é', ⟨.rgb 0x98 0xc3 0x79, .rgb 0x27 0x28 0x22, false⟩) ∧
    shown[3]? = some ('i', ⟨.rgb 0x64 0x95 0xed, .rgb 0x27 0x28 0x22, true⟩) := by
  have hresult : ((Document.Operation.insert 0 ['«', 'é', '«']).result?
      (.ofText ['i', 'f'] (.program quoting))).map (fun d => (d.text, d.buffer.styles, d.lexer)) =
        some (['«', 'é', '«', 'i', 'f'], [.string, .string, .string, .string, .stringEnd,
          .stringEnd, .keyword, .keyword], .program quoting) := by decide +kernel
  obtain ⟨document, hnext, hdocument⟩ := Option.map_eq_some_iff.1 hresult
  obtain ⟨htext, hdocument⟩ := Prod.mk.inj hdocument
  obtain ⟨hstyles, hlexer⟩ := Prod.mk.inj hdocument
  have harises : document.Arises := .step _ (.ofText _ _) hnext
  obtain ⟨-, -, painted, hpainted, hshows⟩ :=
    painted_shows harises .builtinDark true .standard
  obtain ⟨shown, hread, hsame, hlooks⟩ := hshows (by rw [htext]; decide)
  rw [htext] at hsame
  have hquoted := hlooks ['«'] 'é' ['«', 'i', 'f'] .string htext
    (by rw [Buffer.styleAt?, hstyles]; rfl)
  have hkeyword := hlooks ['«', 'é', '«'] 'i' ['f'] .keyword htext
    (by rw [Buffer.styleAt?, hstyles]; rfl)
  rw [hlexer] at hquoted hkeyword
  exact ⟨document, painted, shown, hnext, hpainted, hread, hsame, hquoted, hkeyword⟩

end Paint

end EditorCore
