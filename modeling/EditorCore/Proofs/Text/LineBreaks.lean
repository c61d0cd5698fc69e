import EditorCore.Text.LineEnding
import Mathlib.Data.List.Basic

/-!
# Texts of one line ending

A text of one convention has no other line breaks. Such texts are what normalizing gives, and
what normalizing leaves as it is. They can be put behind each other, and cut anywhere but within
a break.
-/

namespace EditorCore.LineEnding

variable {ending : LineEnding} {text front back : List Char}

/-- A text all of whose line breaks are of one convention. -/
inductive UsesOnly (ending : LineEnding) : List Char → Prop where
  /-- An empty text has no line break. -/
  | nil : UsesOnly ending []
  /-- A character that breaks no line. -/
  | cons {c : Char} {text : List Char} (hfeed : c ≠ '\n') (hreturn : c ≠ '\r')
    (h : UsesOnly ending text) : UsesOnly ending (c :: text)
  /-- A line break of the convention. -/
  | lineBreak {text : List Char} (h : UsesOnly ending text) : UsesOnly ending (ending.chars ++ text)

/-! ### Normalizing -/

theorem unify_cons {c : Char} (h : c ≠ '\r') (text : List Char) :
    unify (c :: text) = c :: unify text := by
  rw [unify]
  · exact fun _ hc => absurd hc h
  · exact h

theorem not_return_unify (text : List Char) : '\r' ∉ unify text := by
  induction text using unify.induct with
  | case1 => simp [unify]
  | case2 cs ih => simpa [unify] using ih
  | case3 cs hfeed ih => simpa [unify, hfeed] using ih
  | case4 c cs _ hreturn ih =>
      rw [unify_cons hreturn, List.mem_cons, not_or]
      exact ⟨Ne.symm hreturn, ih⟩

/-- What is normalized to a convention uses only that. -/
theorem usesOnly_normalize (ending : LineEnding) (text : List Char) :
    ending.UsesOnly (ending.normalize text) := by
  have hall : ∀ unified : List Char, '\r' ∉ unified → ending.UsesOnly
      (unified.flatMap fun c => if c = '\n' then ending.chars else [c]) := by
    intro unified hreturn
    induction unified with
    | nil => exact .nil
    | cons c unified ih =>
        rw [List.mem_cons, not_or] at hreturn
        rw [List.flatMap_cons]
        split
        · exact .lineBreak (ih hreturn.2)
        · next hfeed => exact .cons hfeed (Ne.symm hreturn.1) (ih hreturn.2)
  exact hall _ (not_return_unify text)

/-- A text that uses only carriage returns does not begin with a line feed. -/
theorem UsesOnly.head?_ne (h : UsesOnly .cr text) : text.head? ≠ some '\n' := by
  cases h with
  | nil => simp
  | cons hfeed => simpa using hfeed
  | lineBreak => simp [chars]

/-- Normalizing leaves a text as it is that uses only the convention. -/
theorem UsesOnly.normalize_eq (h : ending.UsesOnly text) : ending.normalize text = text := by
  induction h with
  | nil => simp [normalize, unify]
  | cons hfeed hreturn _ ih =>
      rw [normalize, unify_cons hreturn, List.flatMap_cons, if_neg hfeed]
      rw [normalize] at ih
      rw [ih, List.singleton_append]
  | @lineBreak text h ih =>
      rw [normalize] at ih ⊢
      cases ending with
      | lf => simpa [chars, unify_cons] using ih
      | crlf => simpa [chars, unify] using ih
      | cr =>
          have hfeed : ∀ cs, text ≠ '\n' :: cs := by
            rintro cs rfl
            exact h.head?_ne rfl
          simpa [chars, unify, hfeed] using ih

theorem normalize_eq_iff : ending.normalize text = text ↔ ending.UsesOnly text := by
  constructor
  · intro h
    rw [← h]
    exact usesOnly_normalize ending text
  · exact UsesOnly.normalize_eq

instance (ending : LineEnding) (text : List Char) : Decidable (ending.UsesOnly text) :=
  decidable_of_iff _ normalize_eq_iff

/-! ### Putting together and cutting -/

theorem UsesOnly.append (hfront : ending.UsesOnly front) (hback : ending.UsesOnly back) :
    ending.UsesOnly (front ++ back) := by
  induction hfront with
  | nil => exact hback
  | cons hfeed hreturn _ ih => exact .cons hfeed hreturn ih
  | lineBreak _ ih =>
      rw [List.append_assoc]
      exact .lineBreak ih

/-- A cut goes through a carriage return with its line feed. -/
def Tears (front back : List Char) : Prop := ∃ before after, front = before ++ ['\r'] ∧
  back = '\n' :: after

theorem not_tears_of_append (more : List Char) (h : ¬ Tears (more ++ front) back) :
    ¬ Tears front back := by
  rintro ⟨before, after, rfl, rfl⟩
  exact h ⟨more ++ before, after, by simp, rfl⟩

/-- A break of one convention is cut through only if it is torn. -/
theorem eq_nil_of_chars_eq (h : ending.chars = front ++ back) (htears : ¬ Tears front back) :
    front = [] ∨ back = [] := by
  cases ending with
  | lf | cr =>
      rcases List.append_eq_singleton_iff.1 h.symm with ⟨rfl, -⟩ | ⟨-, rfl⟩
      · exact .inl rfl
      · exact .inr rfl
  | crlf =>
      rcases List.append_eq_cons_iff.1 h.symm with ⟨rfl, -⟩ | ⟨rest, rfl, hrest⟩
      · exact .inl rfl
      · rcases List.append_eq_singleton_iff.1 hrest.symm with ⟨rfl, rfl⟩ | ⟨-, rfl⟩
        · exact absurd ⟨[], [], rfl, rfl⟩ htears
        · exact .inr rfl

/-- A cut that tears no break leaves two texts that use only the convention. -/
theorem UsesOnly.of_append (h : ending.UsesOnly (front ++ back)) (hcut : ¬ Tears front back) :
    ending.UsesOnly front ∧ ending.UsesOnly back := by
  generalize htext : front ++ back = text at h
  induction h generalizing front with
  | nil =>
      obtain ⟨rfl, rfl⟩ := List.append_eq_nil_iff.1 htext
      exact ⟨.nil, .nil⟩
  | @cons c text hfeed hreturn h ih =>
      cases front with
      | nil =>
          obtain rfl : back = c :: text := htext
          exact ⟨.nil, .cons hfeed hreturn h⟩
      | cons d front =>
          obtain ⟨rfl, hrest⟩ := List.cons.inj htext
          obtain ⟨hfront, hback⟩ := ih (not_tears_of_append [d] hcut) hrest
          exact ⟨.cons hfeed hreturn hfront, hback⟩
  | @lineBreak text h ih =>
      rcases List.append_eq_append_iff.1 htext with ⟨cut, hchars, rfl⟩ | ⟨rest, rfl, hrest⟩
      · have htorn : ¬ Tears front cut := by
          rintro ⟨before, after, rfl, rfl⟩
          exact hcut ⟨before, after ++ text, rfl, rfl⟩
        rcases eq_nil_of_chars_eq hchars htorn with rfl | rfl
        · rw [List.nil_append] at hchars
          exact ⟨.nil, hchars ▸ h.lineBreak⟩
        · rw [List.append_nil] at hchars
          refine ⟨?_, h⟩
          rw [← hchars, ← List.append_nil ending.chars]
          exact .lineBreak .nil
      · obtain ⟨hfront, hback⟩ := ih (not_tears_of_append _ hcut) hrest.symm
        exact ⟨hfront.lineBreak, hback⟩

end EditorCore.LineEnding
