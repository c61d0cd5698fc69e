import EditorCore.Token.Backward
import EditorCore.Proofs.Token.Partition
import Mathlib.Data.List.Basic

/-!
# Tokens around a place, found without the text before them

If no comment is led by a blank or by a character of words, then a token is a whole run
of one class of characters, or a single character. Looking back from a place and cutting
the text from its start then agree: the token before a place is the last token of the
text up to there, and the token that a place lies in reaches back and on to the nearest
cuts.
-/

namespace EditorCore

variable {t : Tokenizer} {text before after rest token : List Char} {c : Char}
  {kind : CharClass}

/-- The characters of words, by their code points. -/
theorem Token.isWordChar_iff : isWordChar c = true ↔
    (((65 ≤ c.toNat ∧ c.toNat ≤ 90) ∨ (97 ≤ c.toNat ∧ c.toNat ≤ 122)) ∨
      (48 ≤ c.toNat ∧ c.toNat ≤ 57)) ∨ c = '_' := by
  have hdef : isWordChar c = (decide (65 ≤ c.val ∧ c.val ≤ 90) ||
      (decide (97 ≤ c.val) && decide (c.val ≤ 122)) ||
      (decide (48 ≤ c.val) && decide (c.val ≤ 57)) || c == '_') := rfl
  rw [hdef]
  simp only [Bool.or_eq_true, Bool.and_eq_true, decide_eq_true_eq, beq_iff_eq,
    UInt32.le_iff_toNat_le]
  exact Iff.rfl

theorem Token.isBlank_eq_false_of_isWordChar (h : isWordChar c) : Text.isBlank c = false := by
  rcases isWordChar_iff.1 h with h | rfl
  · simp only [Text.isBlank, Bool.or_eq_false_iff, Bool.and_eq_false_iff,
      decide_eq_false_iff_not, beq_eq_false_iff_ne]
    omega
  · rfl

namespace Tokenizer

/-- No comment is led by a blank or by a character of words. -/
def IsOrderly (t : Tokenizer) : Prop :=
  ∀ lead ∈ t.commentLeads,
    Text.isBlank lead.char = false ∧ Token.isWordChar lead.char = false

instance (t : Tokenizer) : Decidable t.IsOrderly :=
  inferInstanceAs (Decidable (∀ lead ∈ t.commentLeads, _))

/-! ### Classes -/

theorem classOf_eq_blank_iff : t.classOf c = .blank ↔ Text.isBlank c = true := by
  simp only [classOf]
  split
  · simp_all
  · split
    · simp_all
    · split <;> simp_all

theorem classOf_eq_word_iff : t.classOf c = .word ↔ Token.isWordChar c = true := by
  simp only [classOf]
  split
  · next h =>
      have := mt Token.isBlank_eq_false_of_isWordChar (by simpa using h)
      simp_all
  · split
    · simp_all
    · split <;> simp_all

theorem isBlank_eq_decide (t : Tokenizer) (c : Char) :
    Text.isBlank c = decide (t.classOf c = .blank) := by
  rw [Bool.eq_iff_iff, decide_eq_true_iff, classOf_eq_blank_iff]

theorem isWordChar_eq_decide (t : Tokenizer) (c : Char) :
    Token.isWordChar c = decide (t.classOf c = .word) := by
  rw [Bool.eq_iff_iff, decide_eq_true_iff, classOf_eq_word_iff]

/-- A character of the class of a lead is that lead itself. -/
theorem classOf_eq_lead_iff {d : Char} (ht : t.IsOrderly) :
    t.classOf c = .lead d ↔ c = d ∧ c ≠ '*' ∧ ∃ lead ∈ t.commentLeads, lead.char = c := by
  have hlead : (∃ lead ∈ t.commentLeads, lead.char = c) →
      Text.isBlank c = false ∧ Token.isWordChar c = false := by
    rintro ⟨lead, hmem, rfl⟩
    exact ht lead hmem
  simp only [classOf]
  split
  · next h =>
      simp only [reduceCtorEq, false_iff]
      exact fun hd => by simp [(hlead hd.2.2).1] at h
  · split
    · next h =>
        simp only [reduceCtorEq, false_iff]
        exact fun hd => by simp [(hlead hd.2.2).2] at h
    · split
      · next h =>
          simp only [Bool.and_eq_true, bne_iff_ne, List.any_eq_true, beq_iff_eq] at h
          simp [h.1, h.2]
      · next h =>
          simp only [Bool.and_eq_true, bne_iff_ne, List.any_eq_true, beq_iff_eq] at h
          simpa using fun _ => not_and.1 h

theorem runAfter_blank (t : Tokenizer) (text : List Char) :
    t.runAfter .blank text = text.takeWhile Text.isBlank := by
  refine congrArg (List.takeWhile · text) (funext fun c => ?_)
  rw [Bool.eq_iff_iff, beq_iff_eq, classOf_eq_blank_iff]

theorem runAfter_word (t : Tokenizer) (text : List Char) :
    t.runAfter .word text = text.takeWhile Token.isWordChar := by
  refine congrArg (List.takeWhile · text) (funext fun c => ?_)
  rw [Bool.eq_iff_iff, beq_iff_eq, classOf_eq_word_iff]

theorem runAfter_lead (ht : t.IsOrderly) (h : t.classOf c = .lead c) (text : List Char) :
    t.runAfter (.lead c) text = text.takeWhile (· == c) := by
  refine congrArg (List.takeWhile · text) (funext fun d => ?_)
  rw [Bool.eq_iff_iff, beq_iff_eq, beq_iff_eq]
  exact ⟨fun hd => ((classOf_eq_lead_iff ht).1 hd).1, fun hd => hd ▸ h⟩

theorem runAfter_append_of_mem {front : List Char} (h : ∀ c ∈ front, t.classOf c = kind) :
    t.runAfter kind (front ++ rest) = front ++ t.runAfter kind rest :=
  List.takeWhile_append_of_pos (by simpa using h)

theorem runAfter_eq_nil (h : ∀ c ∈ text.head?, t.classOf c ≠ kind) :
    t.runAfter kind text = [] := by
  cases text with
  | nil => rfl
  | cons c cs => simp [runAfter, h c rfl]

theorem runBefore_append_of_mem {back : List Char} (h : ∀ c ∈ back, t.classOf c = kind) :
    t.runBefore kind (before ++ back) = t.runBefore kind before ++ back := by
  rw [runBefore, List.reverse_append, List.takeWhile_append_of_pos (by simpa using h)]
  simp [runBefore]

theorem runBefore_eq_nil (h : ∀ c ∈ before.getLast?, t.classOf c ≠ kind) :
    t.runBefore kind before = [] := by
  rw [List.getLast?_eq_head?_reverse] at h
  rw [runBefore, List.reverse_eq_nil_iff]
  exact runAfter_eq_nil h

/-- The shortest run of a lead is one of those that are asked for. -/
theorem leastRun_le_iff {n : Nat} (h : ∃ lead ∈ t.commentLeads, lead.char = c) :
    t.leastRun c ≤ n ↔ ∃ lead ∈ t.commentLeads, lead.char = c ∧ lead.least ≤ n := by
  obtain ⟨lead, hmem, hchar⟩ := h
  have hne : ((t.commentLeads.filter (·.char == c)).map (·.least)) ≠ [] := by
    simpa using ⟨lead, hmem, hchar⟩
  obtain ⟨least, hleast⟩ := Option.isSome_iff_exists.1 (List.isSome_min?_of_ne_nil hne)
  obtain ⟨hin, hle⟩ := List.min?_eq_some_iff.1 hleast
  rw [leastRun, hleast, Option.getD_some]
  constructor
  · intro hn
    obtain ⟨lead, hlead, rfl⟩ := List.mem_map.1 hin
    rw [List.mem_filter, beq_iff_eq] at hlead
    exact ⟨lead, hlead.1, hlead.2, hn⟩
  · rintro ⟨lead, hlead, hchar, hn⟩
    refine Nat.le_trans (hle _ (List.mem_map_of_mem ?_)) hn
    simpa using ⟨hlead, hchar⟩

/-! ### The token in front of a text -/

/-- A lead takes the run of its character if the run is long enough. -/
theorem match?_lead (lead : CommentLead) (c : Char) (cs : List Char) :
    (Alternative.lead lead).match? (c :: cs) =
      if lead.char = c ∧ lead.least ≤ ((c :: cs).takeWhile (· == c)).length then
        some ((c :: cs).takeWhile (· == c))
      else none := by
  by_cases hchar : lead.char = c
  · subst hchar
    simp only [Alternative.match?, runOf, true_and]
  · have hpos : 1 ≤ lead.least := Nat.le_max_right _ _
    rw [if_neg (fun h => hchar h.1), Alternative.match?, runOf_eq_none_iff,
      List.takeWhile_cons_of_neg (by simpa using Ne.symm hchar)]
    exact hpos

theorem findSome?_leads (leads : List CommentLead) (c : Char) (cs : List Char) :
    (leads.map Alternative.lead).findSome? (·.match? (c :: cs)) =
      if ∃ lead ∈ leads, lead.char = c ∧ lead.least ≤ ((c :: cs).takeWhile (· == c)).length then
        some ((c :: cs).takeWhile (· == c))
      else none := by
  induction leads with
  | nil => simp
  | cons lead leads ih =>
      rw [List.map_cons, List.findSome?_cons, match?_lead, ih]
      by_cases h : lead.char = c ∧ lead.least ≤ ((c :: cs).takeWhile (· == c)).length
      · simp only [if_pos h]
        exact (if_pos ⟨lead, List.mem_cons_self, h⟩).symm
      · simp only [h, if_false, List.mem_cons, or_and_right, exists_or, exists_eq_left, false_or]

theorem findSome?_classes (c : Char) (cs : List Char) :
    [Alternative.blanks, .word, .other].findSome? (·.match? (c :: cs)) =
      some (if Text.isBlank c then (c :: cs).takeWhile Text.isBlank
        else if Token.isWordChar c then (c :: cs).takeWhile Token.isWordChar
        else [c]) := by
  by_cases hblank : Text.isBlank c
  · simp [Alternative.match?, runOf, hblank]
  · by_cases hword : Token.isWordChar c <;>
      simp [List.findSome?_cons, Alternative.match?, runOf, hblank, hword]

/-- The token in front of a text that begins with a character of a class. -/
def tokenOf (t : Tokenizer) (c : Char) (text : List Char) : CharClass → Token
  | .single => [c]
  | .blank => t.runAfter .blank text
  | .word => t.runAfter .word text
  | .lead d =>
    if t.leastRun d ≤ (t.runAfter (.lead d) text).length then t.runAfter (.lead d) text else [c]

/-- Which token stands in front of a text is decided by the class of its first character. -/
theorem Takes.eq_tokenOf (ht : t.IsOrderly) {cs : List Char}
    (h : t.Takes token rest) (htext : token ++ rest = c :: cs) :
    token = t.tokenOf c (c :: cs) (t.classOf c) := by
  rw [Takes, htext, alternatives, List.cons_append, List.findSome?_cons] at h
  by_cases hstar : c = '*'
  · subst hstar
    simp only [Alternative.match?, List.head?_cons, if_true, Option.some.injEq] at h
    have hclass : t.classOf '*' = .single := by simp [classOf]; decide
    rw [hclass, ← h]
    rfl
  rw [Alternative.match?, List.head?_cons, if_neg (by simpa using hstar),
    List.findSome?_append, findSome?_leads, findSome?_classes] at h
  rw [isBlank_eq_decide t, isWordChar_eq_decide t] at h
  -- only a character of the class of a lead can be taken by a lead
  have hleads : t.classOf c ≠ .lead c → ¬ ∃ lead ∈ t.commentLeads, lead.char = c ∧
      lead.least ≤ ((c :: cs).takeWhile (· == c)).length := by
    rintro hne ⟨lead, hin, hchar, -⟩
    exact hne ((classOf_eq_lead_iff ht).2 ⟨rfl, hstar, lead, hin, hchar⟩)
  cases hclass : t.classOf c with
  | lead d =>
      obtain ⟨rfl, -, hmem⟩ := (classOf_eq_lead_iff ht).1 hclass
      simp only [tokenOf, runAfter_lead ht hclass, leastRun_le_iff hmem]
      by_cases hlong : ∃ lead ∈ t.commentLeads, lead.char = c ∧
          lead.least ≤ ((c :: cs).takeWhile (· == c)).length
      · simp only [if_pos hlong, Option.some_or, Option.some.injEq] at h ⊢
        exact h.symm
      · simp only [if_neg hlong, hclass, reduceCtorEq, decide_false, Bool.false_eq_true, if_false,
          Option.none_or, Option.some.injEq] at h ⊢
        exact h.symm
  | blank =>
      rw [if_neg (hleads (by simp [hclass]))] at h
      simp only [hclass, decide_true, if_true, Option.none_or, Option.some.injEq] at h
      exact h ▸ (t.runAfter_blank _).symm
  | word =>
      rw [if_neg (hleads (by simp [hclass]))] at h
      simp only [hclass, reduceCtorEq, decide_false, decide_true, Bool.false_eq_true, if_false,
        if_true, Option.none_or, Option.some.injEq] at h
      exact h ▸ (t.runAfter_word _).symm
  | single =>
      rw [if_neg (hleads (by simp [hclass]))] at h
      simp only [hclass, reduceCtorEq, decide_false, Bool.false_eq_true, if_false,
        Option.none_or, Option.some.injEq] at h
      exact h.symm

/--
How a token stands between the text before it and the text behind it: it is all of a run
of one class, or a character by itself, which for the character of a lead means that all
of its run is too short.
-/
inductive Stands (t : Tokenizer) (before rest : List Char) : Token → Prop where
  /-- The token is a whole run. -/
  | run {token : Token} {kind : CharClass} (single : kind ≠ .single)
      (mem : ∀ c ∈ token, t.classOf c = kind)
      (left : ∀ c ∈ before.getLast?, t.classOf c ≠ kind)
      (right : ∀ c ∈ rest.head?, t.classOf c ≠ kind)
      (long : ∀ c, kind = .lead c → t.leastRun c ≤ token.length) : Stands t before rest token
  /-- The token is a single character. -/
  | lone {c : Char} (short : t.classOf c = .single ∨ t.classOf c = .lead c ∧
      (t.runBefore (.lead c) before).length + (t.runAfter (.lead c) rest).length + 1 <
        t.leastRun c) : Stands t before rest [c]

theorem tokenAround?_eq_none_iff : t.tokenAround? before after = none ↔
    ∀ last ∈ before.getLast?, ∀ next ∈ after.head?, t.classOf last = t.classOf next →
      t.classOf last = .single ∨ ∃ d, t.classOf last = .lead d ∧
        (t.runBefore (.lead d) before).length + (t.runAfter (.lead d) after).length <
          t.leastRun d := by
  simp only [tokenAround?]
  cases before.getLast? with
  | none => simp
  | some last =>
      cases after.head? with
      | none => simp
      | some next =>
          simp only [Option.mem_some_iff, forall_eq']
          by_cases hsame : t.classOf last = t.classOf next
          · simp only [← hsame]
            cases t.classOf last <;> simp
          · simp [hsame]

/-- All of a run in front of a text stands there if the place before it cuts no token. -/
theorem stands_of_runAfter (hplace : t.tokenAround? before (token ++ rest) = none)
    (hne : token ≠ []) (hkind : kind ≠ .single) (hrun : t.runAfter kind (token ++ rest) = token)
    (hlong : ∀ c, kind = .lead c → t.leastRun c ≤ token.length) :
    t.Stands before rest token := by
  have hmem : ∀ c ∈ token, t.classOf c = kind := by
    intro c hc
    rw [← hrun] at hc
    simpa using List.mem_takeWhile_imp hc
  refine .run hkind hmem ?_ ?_ hlong
  · intro last hlast hclass
    obtain ⟨c, cs, rfl⟩ := List.exists_cons_of_ne_nil hne
    have hc : t.classOf c = kind := hmem c List.mem_cons_self
    rcases tokenAround?_eq_none_iff.1 hplace last hlast c rfl (hclass.trans hc.symm) with
      h | ⟨d, h, hshort⟩
    · exact hkind (hclass.symm.trans h)
    · have hd : kind = .lead d := hclass.symm.trans h
      have := hlong d hd
      rw [← hd, hrun] at hshort
      omega
  · intro next hnext hclass
    obtain ⟨cs, rfl⟩ := List.head?_eq_some_iff.1 hnext
    rw [runAfter_append_of_mem hmem] at hrun
    simp [runAfter, hclass] at hrun

/-- A token in front of a text stands there if the place before it cuts no token. -/
theorem Takes.stands (ht : t.IsOrderly) (h : t.Takes token rest)
    (hplace : t.tokenAround? before (token ++ rest) = none) : t.Stands before rest token := by
  obtain ⟨c, cs, htext⟩ := List.exists_cons_of_ne_nil
    (List.append_ne_nil_of_left_ne_nil h.ne_nil rest)
  have htoken := h.eq_tokenOf ht htext
  rw [← htext] at htoken
  cases hclass : t.classOf c with
  | single =>
      simp only [hclass] at htoken
      exact htoken ▸ .lone (.inl hclass)
  | blank =>
      simp only [hclass] at htoken
      exact stands_of_runAfter hplace h.ne_nil (by simp) htoken.symm (by simp)
  | word =>
      simp only [hclass] at htoken
      exact stands_of_runAfter hplace h.ne_nil (by simp) htoken.symm (by simp)
  | lead d =>
      obtain ⟨rfl, -⟩ := (classOf_eq_lead_iff ht).1 hclass
      simp only [hclass, tokenOf] at htoken
      split at htoken
      · next hlong =>
          rw [← htoken] at hlong
          exact stands_of_runAfter hplace h.ne_nil (by simp) htoken.symm (by simpa using hlong)
      · next hshort =>
          subst htoken
          rw [runAfter_append_of_mem (by simpa using hclass), List.length_append] at hshort
          refine .lone (.inr ⟨hclass, ?_⟩)
          by_cases hleft : ∀ last ∈ before.getLast?, t.classOf last ≠ .lead c
          · rw [runBefore_eq_nil hleft]
            simpa [Nat.add_comm] using hshort
          · simp only [not_forall, not_not] at hleft
            obtain ⟨last, hlast, hsame⟩ := hleft
            rcases tokenAround?_eq_none_iff.1 hplace last hlast c rfl (hsame.trans hclass.symm) with
              h | ⟨d, h, hplace⟩
            · simp [hsame] at h
            · obtain rfl := CharClass.lead.inj (hsame.symm.trans h)
              rw [runAfter_append_of_mem (by simpa using hclass), List.length_append,
                List.length_singleton] at hplace
              omega

/-- All characters of a token are of one class. -/
theorem Stands.uniform (h : t.Stands before rest token) :
    ∃ kind, (∀ c ∈ token, t.classOf c = kind) ∧ (kind = .single → token.length = 1) := by
  cases h with
  | run hsingle hmem => exact ⟨_, hmem, fun h => absurd h hsingle⟩
  | @lone c hshort => exact ⟨t.classOf c, by simp, fun _ => rfl⟩

/-- Behind a token that stands there, the next place cuts no token either. -/
theorem Stands.tokenAround?_eq_none (h : t.Stands before rest token) (hne : token ≠ []) :
    t.tokenAround? (before ++ token) rest = none := by
  rw [tokenAround?_eq_none_iff]
  intro last hlast next hnext hsame
  rw [List.getLast?_append_of_ne_nil _ hne] at hlast
  cases h with
  | run hsingle hmem hleft hright hlong =>
      exact absurd (hsame.symm.trans (hmem last (List.mem_of_mem_getLast? hlast)))
        (hright next hnext)
  | @lone c hshort =>
      obtain rfl : c = last := by simpa using hlast
      rcases hshort with hsingle | ⟨hlead, hshort⟩
      · exact .inl hsingle
      · refine .inr ⟨c, hlead, ?_⟩
        rw [runBefore_append_of_mem (by simpa using hlead), List.length_append]
        simp only [List.length_singleton]
        omega

/-- Looking back from behind a token that stands there finds the token. -/
theorem Stands.tokenBefore?_eq (h : t.Stands before rest token)
    (hne : token ≠ []) : t.tokenBefore? (before ++ token) = some token := by
  rw [tokenBefore?, List.getLast?_append_of_ne_nil _ hne]
  cases h with
  | @run _ kind hsingle hmem hleft hright hlong =>
      obtain ⟨last, hlast⟩ := Option.isSome_iff_exists.1 (List.getLast?_isSome.2 hne)
      have hclass : t.classOf last = kind := hmem last (List.mem_of_mem_getLast? hlast)
      have hrun : t.runBefore kind (before ++ token) = token := by
        rw [runBefore_append_of_mem hmem, runBefore_eq_nil hleft, List.nil_append]
      rw [hlast, Option.map_some, hclass]
      cases kind with
      | single => exact absurd rfl hsingle
      | blank => simp only [hrun]
      | word => simp only [hrun]
      | lead c => simp only [hrun, if_pos (hlong c rfl)]
  | @lone c hshort =>
      simp only [List.getLast?_singleton, Option.map_some, Option.some.injEq]
      rcases hshort with hsingle | ⟨hlead, hshort⟩
      · simp only [hsingle]
      · have hrun : t.runBefore (.lead c) (before ++ [c]) = t.runBefore (.lead c) before ++ [c] :=
          runBefore_append_of_mem (by simpa using hlead)
        rw [hlead]
        simp only [hrun]
        rw [if_neg (by simp only [List.length_append, List.length_singleton]; omega)]

/-- A place inside a token that stands there is found to cut it into its two sides. -/
theorem Stands.tokenAround?_eq {left right : List Char}
    (h : t.Stands before rest (left ++ right)) (hleft : left ≠ []) (hright : right ≠ []) :
    t.tokenAround? (before ++ left) (right ++ rest) = some (left, right) := by
  generalize htoken : left ++ right = token at h
  cases h with
  | lone =>
      have hlength := congrArg List.length htoken
      have := List.length_pos_iff.2 hleft
      have := List.length_pos_iff.2 hright
      simp only [List.length_append, List.length_singleton] at hlength
      omega
  | @run _ kind hsingle hmem hl hr hlong =>
      subst htoken
      have hlast : ∀ c ∈ left, t.classOf c = kind := fun c hc => hmem c (List.mem_append_left _ hc)
      have hnext : ∀ c ∈ right, t.classOf c = kind :=
        fun c hc => hmem c (List.mem_append_right _ hc)
      obtain ⟨last, hlast?⟩ := Option.isSome_iff_exists.1 (List.getLast?_isSome.2 hleft)
      obtain ⟨next, cs, rfl⟩ := List.exists_cons_of_ne_nil hright
      have hbefore : t.runBefore kind (before ++ left) = left := by
        rw [runBefore_append_of_mem hlast, runBefore_eq_nil hl, List.nil_append]
      have hafter : t.runAfter kind (next :: cs ++ rest) = next :: cs := by
        rw [runAfter_append_of_mem hnext, runAfter_eq_nil hr, List.append_nil]
      rw [tokenAround?, List.getLast?_append_of_ne_nil _ hleft, hlast?, List.cons_append,
        List.head?_cons, ← List.cons_append]
      simp only [hlast last (List.mem_of_getLast? hlast?), hnext next List.mem_cons_self, hbefore,
        hafter, bne_self_eq_false, Bool.false_or, beq_iff_eq, if_neg hsingle]
      cases kind with
      | single => exact absurd rfl hsingle
      | blank => rfl
      | word => rfl
      | lead c =>
          have := hlong c rfl
          rw [List.length_append] at this
          exact if_neg (Nat.not_lt.2 this)

/-! ### Alignment -/

theorem alignStart?_byteLength (t : Tokenizer) (before after : List Char) :
    t.alignStart? (before ++ after) (Text.byteLength before) =
      some (Text.byteLength before - Text.byteLength (t.leftOf before after)) := by
  simp [alignStart?, Text.splitAt?_byteLength]

theorem alignEnd?_byteLength (t : Tokenizer) (before after : List Char) :
    t.alignEnd? (before ++ after) (Text.byteLength before) =
      some (Text.byteLength before + Text.byteLength (t.rightOf before after)) := by
  simp [alignEnd?, Text.splitAt?_byteLength]

/-! ### Cuts -/

/-- No place between two tokens cuts a token, however the text before the first one ends. -/
theorem tokenAround?_flatten (ht : t.IsOrderly) {front tail : List Token}
    (htokens : t.tokens text = front ++ tail) (hplace : t.tokenAround? before text = none) :
    t.tokenAround? (before ++ front.flatten) tail.flatten = none := by
  induction front generalizing text before with
  | nil =>
      rw [List.nil_append] at htokens
      rwa [List.flatten_nil, List.append_nil, ← htokens, flatten_tokens]
  | cons token front ih =>
      obtain ⟨htakes, hrest⟩ := takes_of_tokens_eq_cons htokens
      have htext : text = token ++ List.flatten (front ++ tail) := by
        rw [← flatten_tokens t text, htokens, List.cons_append, List.flatten_cons]
      rw [htext] at hplace
      have hstands := htakes.stands ht hplace
      have := ih hrest (hstands.tokenAround?_eq_none htakes.ne_nil)
      rwa [List.append_assoc] at this

theorem tokenAround?_nil_left (t : Tokenizer) (after : List Char) :
    t.tokenAround? [] after = none := by
  simp [tokenAround?]

/-- A place where the text can be cut is found to cut no token. -/
theorem Cuts.tokenAround?_eq_none (ht : t.IsOrderly) (h : t.Cuts before after) :
    t.tokenAround? before after = none := by
  have := tokenAround?_flatten ht h (t.tokenAround?_nil_left (before ++ after))
  simpa using this

/-- A token of a text stands between the tokens before it and those behind it. -/
theorem stands_of_tokens_eq (ht : t.IsOrderly) {front tail : List Token}
    (htokens : t.tokens text = front ++ token :: tail) :
    t.Stands front.flatten tail.flatten token := by
  have hplace := tokenAround?_flatten ht htokens (t.tokenAround?_nil_left text)
  rw [List.nil_append, List.flatten_cons] at hplace
  exact (takes_of_tokens_eq_cons (tokens_flatten htokens).2).1.stands ht hplace

/-- The token found by looking back is the last one of the text up to there. -/
theorem tokenBefore?_eq_getLast? (ht : t.IsOrderly) (before : List Char) :
    t.tokenBefore? before = (t.tokens before).getLast? := by
  rcases (t.tokens before).eq_nil_or_concat' with hnil | ⟨front, token, htokens⟩
  · have hbefore : before = [] := by rw [← flatten_tokens t before, hnil, List.flatten_nil]
    rw [hnil, hbefore]
    rfl
  · have hmem : token ∈ t.tokens before := by simp [htokens]
    have hne : token ≠ [] := ne_nil_of_mem_tokens hmem
    have hbefore : before = front.flatten ++ token := by
      rw [← flatten_tokens t before, htokens]
      simp
    rw [htokens, List.getLast?_concat, hbefore]
    exact (stands_of_tokens_eq ht htokens).tokenBefore?_eq hne

/-- Any place of a text lies between two pieces of it, or inside one of them. -/
theorem exists_piece_around {pieces : List (List Char)}
    (h : pieces.flatten = before ++ after) :
    (∃ front tail, pieces = front ++ tail ∧ front.flatten = before) ∨
      ∃ front left right tail, pieces = front ++ (left ++ right) :: tail ∧
        front.flatten ++ left = before ∧ left ≠ [] ∧ right ≠ [] := by
  induction pieces generalizing before with
  | nil => exact .inl ⟨[], [], rfl, by simpa using (List.append_eq_nil_iff.1 h.symm).1.symm⟩
  | cons piece pieces ih =>
      rw [List.flatten_cons] at h
      rcases List.append_eq_append_iff.1 h with ⟨more, rfl, hmore⟩ | ⟨right, rfl, hright⟩
      · rcases ih hmore with ⟨front, tail, rfl, rfl⟩ | ⟨front, left, right, tail, rfl, rfl, hl, hr⟩
        · exact .inl ⟨piece :: front, tail, rfl, rfl⟩
        · exact .inr ⟨piece :: front, left, right, tail, rfl, by simp, hl, hr⟩
      · by_cases hleft : before = []
        · exact .inl ⟨[], (before ++ right) :: pieces, rfl, hleft.symm⟩
        by_cases hnil : right = []
        · exact .inl ⟨[before ++ right], pieces, rfl, by simp [hnil]⟩
        · exact .inr ⟨[], before, right, pieces, rfl, rfl, hleft, hnil⟩

/--
Any place of a text lies between two of its tokens, and then nothing is found to its left
and right, or inside a token, and then the two sides of that token are found.
-/
theorem exists_token_around (ht : t.IsOrderly) (before after : List Char) :
    ∃ front tail, before = front.flatten ++ t.leftOf before after ∧
      after = t.rightOf before after ++ tail.flatten ∧
      (t.leftOf before after = [] ∧ t.rightOf before after = [] ∧
          t.tokens (before ++ after) = front ++ tail ∨
        t.leftOf before after ≠ [] ∧ t.rightOf before after ≠ [] ∧
          t.tokens (before ++ after) =
            front ++ (t.leftOf before after ++ t.rightOf before after) :: tail) := by
  rcases exists_piece_around (t.flatten_tokens (before ++ after)) with
    ⟨front, tail, htokens, rfl⟩ | ⟨front, left, right, tail, htokens, rfl, hleft, hright⟩
  · have hcut : t.Cuts front.flatten after := cuts_iff.2 ⟨front, tail, htokens, rfl⟩
    have hnone := hcut.tokenAround?_eq_none ht
    have hafter : after = tail.flatten := by
      have := t.flatten_tokens (front.flatten ++ after)
      rw [htokens, List.flatten_append] at this
      exact (List.append_cancel_left this).symm
    refine ⟨front, tail, ?_⟩
    simp [leftOf, rightOf, hnone, htokens, ← hafter]
  · have hafter : after = right ++ tail.flatten := by
      have := t.flatten_tokens (front.flatten ++ left ++ after)
      rw [htokens] at this
      simpa using this.symm
    subst hafter
    have haround : t.tokenAround? (front.flatten ++ left) (right ++ tail.flatten) =
        some (left, right) := (stands_of_tokens_eq ht htokens).tokenAround?_eq hleft hright
    have hleftOf : t.leftOf (front.flatten ++ left) (right ++ tail.flatten) = left := by
      simp [leftOf, haround]
    have hrightOf : t.rightOf (front.flatten ++ left) (right ++ tail.flatten) = right := by
      simp [rightOf, haround]
    refine ⟨front, tail, ?_⟩
    rw [hleftOf, hrightOf]
    exact ⟨rfl, rfl, .inr ⟨hleft, hright, htokens⟩⟩

/--
The text before and behind any place, up to the cuts around the place: what is found to
its left and right without tokenizing is a token that the place cuts in two, or nothing.
-/
theorem exists_cuts_around (ht : t.IsOrderly) (before after : List Char) :
    ∃ front back, before = front ++ t.leftOf before after ∧
      after = t.rightOf before after ++ back ∧ t.Cuts front (t.leftOf before after ++ after) ∧
      t.Cuts (before ++ t.rightOf before after) back := by
  obtain ⟨front, tail, hbefore, hafter, htokens⟩ := exists_token_around ht before after
  generalize t.leftOf before after = left at hbefore hafter htokens ⊢
  generalize t.rightOf before after = right at hbefore hafter htokens ⊢
  subst hbefore hafter
  refine ⟨front.flatten, tail.flatten, rfl, rfl, ?_⟩
  rcases htokens with ⟨rfl, rfl, htokens⟩ | ⟨-, -, htokens⟩
  · have hcut : t.Cuts front.flatten tail.flatten := by
      refine cuts_iff.2 ⟨front, tail, ?_, rfl⟩
      simpa using htokens
    simpa using hcut
  · rw [List.append_assoc] at htokens ⊢
    refine ⟨cuts_iff.2 ⟨front, (left ++ right) :: tail, htokens, rfl⟩,
      cuts_iff.2 ⟨front ++ [left ++ right], tail, ?_, by simp⟩⟩
    simpa using htokens

/-- A text can be cut between two characters of different classes. -/
theorem cuts_of_classOf_ne (ht : t.IsOrderly) (hdiffer : ∀ last ∈ before.getLast?,
    ∀ next ∈ after.head?, t.classOf last ≠ t.classOf next) : t.Cuts before after := by
  have hnone : t.tokenAround? before after = none := by
    rw [tokenAround?_eq_none_iff]
    exact fun last hlast next hnext hsame => absurd hsame (hdiffer last hlast next hnext)
  obtain ⟨front, back, -, hafter, -, hcut⟩ := exists_cuts_around ht before after
  have hright : t.rightOf before after = [] := by simp [rightOf, hnone]
  rw [hright, List.nil_append] at hafter
  rw [hright, List.append_nil] at hcut
  exact hafter ▸ hcut

/-- A text can be cut between a blank and a character that is none. -/
theorem cuts_of_isBlank_ne (ht : t.IsOrderly) (hdiffer : ∀ last ∈ before.getLast?,
    ∀ next ∈ after.head?, Text.isBlank last ≠ Text.isBlank next) : t.Cuts before after := by
  refine cuts_of_classOf_ne ht fun last hlast next hnext hsame => ?_
  refine absurd ?_ (hdiffer last hlast next hnext)
  rw [t.isBlank_eq_decide, t.isBlank_eq_decide, hsame]

/-- A text can be cut behind a blank and before a character that is none. -/
theorem cuts_of_isBlank (ht : t.IsOrderly)
    (hlast : ∀ c ∈ before.getLast?, Text.isBlank c = true)
    (hnext : ∀ c ∈ after.head?, Text.isBlank c = false) : t.Cuts before after :=
  cuts_of_isBlank_ne ht fun last hl next hn => by simp [hlast last hl, hnext next hn]

/-! ### The tokens of a text -/

theorem uniform_of_mem_tokens (ht : t.IsOrderly) (h : token ∈ t.tokens text) :
    ∃ kind, (∀ c ∈ token, t.classOf c = kind) ∧ (kind = .single → token.length = 1) := by
  obtain ⟨front, tail, htokens⟩ := List.append_of_mem h
  exact (stands_of_tokens_eq ht htokens).uniform

/-- A token with a blank has nothing but blanks. -/
theorem isBlank_of_mem_tokens (ht : t.IsOrderly) (h : token ∈ t.tokens text)
    (hc : c ∈ token) (hblank : Text.isBlank c = true) : Token.isBlank token = true := by
  obtain ⟨kind, hkind, -⟩ := uniform_of_mem_tokens ht h
  have hclass : kind = .blank := (hkind c hc).symm.trans (classOf_eq_blank_iff.2 hblank)
  rw [Token.isBlank, List.all_eq_true]
  exact fun d hd => classOf_eq_blank_iff.1 ((hkind d hd).trans hclass)

/-- Two blank tokens do not stand side by side. -/
theorem not_isBlank_of_tokens_eq (ht : t.IsOrderly) {front tail : List Token} {next : Token}
    (htokens : t.tokens text = front ++ token :: next :: tail)
    (hblank : Token.isBlank token = true) : Token.isBlank next = false := by
  have htoken : token ∈ t.tokens text := by simp [htokens]
  have hnext : next ∈ t.tokens text := by simp [htokens]
  obtain ⟨c, cs, rfl⟩ := List.exists_cons_of_ne_nil (ne_nil_of_mem_tokens htoken)
  obtain ⟨d, ds, rfl⟩ := List.exists_cons_of_ne_nil (ne_nil_of_mem_tokens hnext)
  have hc : t.classOf c = .blank := classOf_eq_blank_iff.2 (by simp_all [Token.isBlank])
  have hstands := stands_of_tokens_eq ht htokens
  have hd : t.classOf d ≠ .blank := by
    generalize hfirst : c :: cs = token at hstands
    cases hstands with
    | run hsingle hmem hleft hright hlong =>
        have hkind := hmem c (hfirst ▸ List.mem_cons_self)
        exact fun h => hright d rfl (h.trans (hc.symm.trans hkind))
    | lone hshort =>
        obtain ⟨rfl, -⟩ := List.cons.inj hfirst
        simp [hc] at hshort
  have hblank : Text.isBlank d = false := by simpa using mt classOf_eq_blank_iff.2 hd
  simp [Token.isBlank, hblank]

/-- A run of blanks or of word characters is one token. -/
theorem tokens_of_classOf (ht : t.IsOrderly) (hne : text ≠ [])
    (hkind : kind = .blank ∨ kind = .word) (hall : ∀ c ∈ text, t.classOf c = kind) :
    t.tokens text = [text] := by
  obtain ⟨token, rest, rfl, htakes⟩ := t.exists_takes hne
  obtain ⟨c, cs, htext⟩ := List.exists_cons_of_ne_nil hne
  have hrun : t.runAfter kind (token ++ rest) = token ++ rest :=
    List.takeWhile_eq_self_iff.2 (by simpa using hall)
  have htoken : token = token ++ rest := by
    have hmatch := htakes.eq_tokenOf ht htext
    rw [← htext, hall c (by simp [htext])] at hmatch
    rcases hkind with rfl | rfl
    · exact hmatch.trans hrun
    · exact hmatch.trans hrun
  have hrest : rest = [] := List.self_eq_append_right.1 htoken
  rw [htakes.tokens_eq, hrest, tokens_nil, List.append_nil]

theorem tokens_of_isBlank (ht : t.IsOrderly) (hne : token ≠ [])
    (hblank : Token.isBlank token = true) : t.tokens token = [token] := by
  rw [Token.isBlank, List.all_eq_true] at hblank
  exact tokens_of_classOf ht hne (.inl rfl) fun c hc => classOf_eq_blank_iff.2 (hblank c hc)

theorem tokens_of_isWordChar (ht : t.IsOrderly) (hne : token ≠ [])
    (hword : ∀ c ∈ token, Token.isWordChar c = true) : t.tokens token = [token] :=
  tokens_of_classOf ht hne (.inr rfl) fun c hc => classOf_eq_word_iff.2 (hword c hc)

end Tokenizer

end EditorCore
