import EditorCore.Proofs.Pattern.Preference
import EditorCore.Search.Basic
import Mathlib.Data.List.DropRight
import Mathlib.Data.List.Forall2

/-!
# What a search reports of a line

A search looks through files of text only. A line with a match is reported with its number,
the byte offset behind the match, and as much of the trimmed line as fits into the columns of
a snippet. A plain pattern that regards case matches where it first stands in the line; what
a regular expression matches is left to the machine.
-/

namespace EditorCore

variable {text inner front wanted line : List Char} {found : Found}

namespace Text

/-! ### Trimmed texts -/

/-- A text without the blanks at either end. -/
structure IsTrimmed (text inner : List Char) : Prop where
  ends : ∃ front back, text = front ++ (inner ++ back) ∧
    (∀ c ∈ front, isBlank c = true) ∧ ∀ c ∈ back, isBlank c = true
  first : ∀ c ∈ inner.head?, isBlank c = false
  last : ∀ c ∈ inner.getLast?, isBlank c = false

theorem IsTrimmed.eq_trim (h : IsTrimmed text inner) : inner = trim text := by
  obtain ⟨front, back, rfl, hfront, hback⟩ := h.ends
  have hstart : trimStart (front ++ (inner ++ back)) = (inner ++ back).dropWhile isBlank :=
    List.dropWhile_append_of_pos hfront
  rw [trim, hstart]
  cases inner with
  | nil =>
      rw [List.nil_append, List.dropWhile_eq_nil_iff.2 hback]
      rfl
  | cons c cs =>
      have hc : isBlank c = false := h.first c rfl
      rw [List.cons_append, List.dropWhile_cons_of_neg (by simp [hc]), ← List.cons_append,
        trimEnd, List.reverse_append, List.dropWhile_append_of_pos (by simpa using hback)]
      have hlast := h.last
      rw [List.getLast?_eq_head?_reverse] at hlast
      cases hreverse : (c :: cs).reverse with
      | nil => simp at hreverse
      | cons d ds =>
          have hd : isBlank d = false := hlast d (by simp [hreverse])
          rw [List.dropWhile_cons_of_neg (by simp [hd]), ← hreverse, List.reverse_reverse]

theorem isTrimmed_trim (text : List Char) : IsTrimmed text (trim text) := by
  have hend : trim text = (trimStart text).rdropWhile isBlank := rfl
  refine ⟨⟨text.takeWhile isBlank, (trimStart text).rtakeWhile isBlank, ?_, ?_, ?_⟩, ?_, ?_⟩
  · rw [hend, List.rdropWhile_append_rtakeWhile, trimStart, List.takeWhile_append_dropWhile]
  · intro c hc
    exact List.mem_takeWhile_imp hc
  · intro c hc
    exact List.mem_rtakeWhile_imp hc
  · intro c hc
    obtain ⟨rest, hrest⟩ := List.rdropWhile_prefix isBlank (trimStart text)
    rw [hend, Option.mem_def] at hc
    have hhead := List.head?_dropWhile_not isBlank text
    rw [← trimStart, ← hrest, List.head?_append, hc] at hhead
    exact hhead
  · intro c hc
    rw [hend] at hc
    obtain ⟨hne, rfl⟩ := List.mem_getLast?_eq_getLast hc
    simpa using List.rdropWhile_last_not isBlank (trimStart text) hne

theorem isTrimmed_iff : IsTrimmed text inner ↔ inner = trim text := by
  constructor
  · exact IsTrimmed.eq_trim
  · rintro rfl
    exact isTrimmed_trim text

theorem IsTrimmed.subset (h : IsTrimmed text inner) : inner ⊆ text := by
  obtain ⟨front, back, rfl, -, -⟩ := h.ends
  intro c hc
  simp [hc]

/-- A text without blanks at its ends is trimmed already. -/
theorem isTrimmed_self (hfirst : ∀ c ∈ text.head?, isBlank c = false)
    (hlast : ∀ c ∈ text.getLast?, isBlank c = false) : IsTrimmed text text :=
  ⟨⟨[], [], by simp, by simp, by simp⟩, hfirst, hlast⟩

/-! ### Columns -/

/-- The columns that a text takes. -/
def width : List Char → Nat
  | [] => 0
  | c :: cs => columns c + width cs

theorem columns_le (c : Char) : columns c ≤ 3 := by
  have hkind : kindColumns c ≤ 3 := by
    unfold kindColumns
    -- the tables stay closed: only the answers they give matter
    generalize (generalCategory c == .control || columnless.contains c) = isHidden
    generalize wide.contains c = isWide
    cases isHidden <;> cases isWide <;> simp
  rw [columns]
  cases hown : ownColumns? c with
  | none =>
      rw [Option.getD_none]
      exact hkind
  | some n =>
      rw [Option.getD_some]
      unfold ownColumns? at hown
      split at hown <;> simp at hown <;> omega

theorem width_le (text : List Char) : width text ≤ 3 * text.length := by
  induction text with
  | nil => simp [width]
  | cons c text ih =>
      have := columns_le c
      simp only [width, List.length_cons] at ih ⊢
      omega

/-- A front of a text that fits into some columns, and no longer one does. -/
structure IsFitting (limit : Nat) (text front : List Char) : Prop where
  isPrefix : front <+: text
  fits : width front ≤ limit
  longest : ∀ other, other <+: text → width other ≤ limit → other.length ≤ front.length

theorem isFitting_self {limit : Nat} (h : width text ≤ limit) : IsFitting limit text text :=
  ⟨List.prefix_rfl, h, fun _ hother _ => hother.length_le⟩

theorem isFitting_fitting (limit : Nat) (text : List Char) :
    IsFitting limit text (Search.fitting limit text) := by
  induction text generalizing limit with
  | nil =>
      refine ⟨List.nil_prefix, Nat.zero_le _, ?_⟩
      intro other hfront _
      simp [List.prefix_nil.1 hfront]
  | cons c text ih =>
      rw [Search.fitting]
      split
      · next hfits =>
          obtain ⟨hfront, hwidth, hlongest⟩ := ih (limit - columns c)
          refine ⟨List.cons_prefix_cons.2 ⟨rfl, hfront⟩, ?_, ?_⟩
          · simp only [width] at hwidth ⊢
            omega
          · intro other hother hlimit
            cases other with
            | nil => simp
            | cons d other =>
                obtain ⟨rfl, hrest⟩ := List.cons_prefix_cons.1 hother
                simp only [width] at hlimit hlongest
                have := hlongest other hrest (by omega)
                simpa using this
      · next hfits =>
          refine ⟨List.nil_prefix, Nat.zero_le _, ?_⟩
          intro other hother hlimit
          cases other with
          | nil => simp
          | cons d other =>
              obtain ⟨rfl, -⟩ := List.cons_prefix_cons.1 hother
              simp only [width] at hlimit
              omega

theorem isFitting_iff {limit : Nat} :
    IsFitting limit text front ↔ front = Search.fitting limit text := by
  constructor
  · intro h
    have hfitting := isFitting_fitting limit text
    have hle := h.longest _ hfitting.isPrefix hfitting.fits
    have hge := hfitting.longest _ h.isPrefix h.fits
    exact (List.prefix_of_prefix_length_le h.isPrefix hfitting.isPrefix hge).eq_of_length
      (by omega)
  · rintro rfl
    exact isFitting_fitting limit text

end Text

/-! ### Matches of plain text -/

namespace Matcher

/-- The place where a text first stands in another one. -/
structure IsFirst (wanted text : List Char) (found : Found) : Prop where
  occurs : ∃ front back, text = front ++ (wanted ++ back) ∧ found.start = front.length
  stop : found.stop = found.start + wanted.length
  first : ∀ front back, text = front ++ (wanted ++ back) → found.start ≤ front.length

/-- A text stands in another one where each of its characters agrees with the one there. -/
def Occurs (ignoreCase : Bool) (wanted text : List Char) (found : Found) : Prop :=
  ∃ front taken back, text = front ++ (taken ++ back) ∧
    List.Forall₂ (fun c d => agrees ignoreCase c d = true) wanted taken ∧
    found = ⟨front.length, front.length + taken.length⟩

theorem opens_iff {ignoreCase : Bool} : opens ignoreCase wanted text = true ↔
    ∃ taken back, text = taken ++ back ∧
      List.Forall₂ (fun c d => agrees ignoreCase c d = true) wanted taken := by
  induction wanted generalizing text with
  | nil => simp [opens]
  | cons c wanted ih =>
      cases text with
      | nil => simp [opens]
      | cons d text =>
          rw [opens, Bool.and_eq_true, ih]
          constructor
          · rintro ⟨hagrees, taken, back, rfl, hrest⟩
            exact ⟨d :: taken, back, rfl, .cons hagrees hrest⟩
          · rintro ⟨taken, back, htext, hall⟩
            cases hall with
            | cons hagrees hrest =>
                rw [List.cons_append, List.cons.injEq] at htext
                obtain ⟨rfl, rfl⟩ := htext
                exact ⟨hagrees, _, back, rfl, hrest⟩

theorem occurs_nil_iff {ignoreCase : Bool} :
    Occurs ignoreCase wanted [] found ↔ wanted = [] ∧ found = ⟨0, 0⟩ := by
  constructor
  · rintro ⟨front, taken, back, htext, hall, rfl⟩
    obtain ⟨rfl, hrest⟩ := List.append_eq_nil_iff.1 htext.symm
    obtain ⟨rfl, rfl⟩ := List.append_eq_nil_iff.1 hrest
    exact ⟨List.forall₂_nil_right_iff.1 hall, rfl⟩
  · rintro ⟨rfl, rfl⟩
    exact ⟨[], [], [], rfl, .nil, rfl⟩

theorem occurs_cons_iff {ignoreCase : Bool} {c : Char} :
    Occurs ignoreCase wanted (c :: text) found ↔
      opens ignoreCase wanted (c :: text) = true ∧ found = ⟨0, wanted.length⟩ ∨
      ∃ place, Occurs ignoreCase wanted text place ∧
        found = ⟨place.start + 1, place.stop + 1⟩ := by
  rw [opens_iff]
  constructor
  · rintro ⟨_ | ⟨d, front⟩, taken, back, htext, hall, rfl⟩
    · exact .inl ⟨⟨taken, back, htext, hall⟩, by simp [hall.length_eq]⟩
    · rw [List.cons_append, List.cons.injEq] at htext
      exact .inr ⟨_, ⟨front, taken, back, htext.2, hall, rfl⟩, by simp; omega⟩
  · rintro (⟨⟨taken, back, htext, hall⟩, rfl⟩ | ⟨_, ⟨front, taken, back, rfl, hall, rfl⟩, rfl⟩)
    · exact ⟨[], taken, back, htext, hall, by simp [hall.length_eq]⟩
    · exact ⟨c :: front, taken, back, rfl, hall, by simp; omega⟩

/-- What is found from a position on is the first place in what is behind it. -/
theorem findsFirst_findText? (ignoreCase : Bool) (wanted text : List Char) (position : Nat) :
    FindsFirst (fun found => ∃ place, Occurs ignoreCase wanted text place ∧
        found = ⟨position + place.start, position + place.stop⟩)
      (findText? ignoreCase wanted position text) := by
  induction text generalizing position with
  | nil =>
      simp only [occurs_nil_iff, findText?, List.isEmpty_iff]
      constructor
      · intro found hfound
        rw [Option.ite_none_right_eq_some, Option.some.injEq] at hfound
        exact ⟨⟨0, 0⟩, ⟨hfound.1, rfl⟩, hfound.2.symm⟩
      · rintro other ⟨_, ⟨hwanted, rfl⟩, rfl⟩
        exact ⟨_, if_pos hwanted, Nat.le_refl _⟩
  | cons c text ih =>
      simp only [occurs_cons_iff, findText?]
      split
      · next hopens =>
          constructor
          · rintro found hfound
            exact ⟨_, .inl ⟨hopens, rfl⟩, (Option.some.inj hfound).symm⟩
          · rintro other ⟨place, -, rfl⟩
            exact ⟨_, rfl, Nat.le_add_right _ _⟩
      · next hopens =>
          constructor
          · intro found hfound
            obtain ⟨place, hplace, rfl⟩ := (ih (position + 1)).isMatch found hfound
            refine ⟨_, .inr ⟨place, hplace, rfl⟩, ?_⟩
            simp only [Found.mk.injEq]
            omega
          · rintro other ⟨_, ⟨hthere, -⟩ | ⟨place, hplace, rfl⟩, rfl⟩
            · exact absurd hthere hopens
            · obtain ⟨found, hfound, hle⟩ :=
                (ih (position + 1)).leftmost _ ⟨place, hplace, rfl⟩
              refine ⟨found, hfound, ?_⟩
              simp only at hle ⊢
              omega

/-- Plain text is found at the first place where it stands in a line. -/
theorem findsFirst_find?_plain (ignoreCase : Bool) (wanted text : List Char) :
    FindsFirst (Occurs ignoreCase wanted text) ((plain ignoreCase wanted).find? text) := by
  have h := findsFirst_findText? ignoreCase wanted text 0
  simp only [Nat.zero_add, exists_eq_right'] at h
  exact h

theorem occurs_iff : Occurs false wanted text found ↔
    ∃ front back, text = front ++ (wanted ++ back) ∧
      found = ⟨front.length, front.length + wanted.length⟩ := by
  have hagrees : (fun c d : Char => agrees false c d = true) = Eq := by
    funext c d
    simp [agrees]
  rw [Occurs, hagrees, List.forall₂_eq_eq_eq]
  constructor
  · rintro ⟨front, _, back, htext, rfl, hfound⟩
    exact ⟨front, back, htext, hfound⟩
  · rintro ⟨front, back, htext, hfound⟩
    exact ⟨front, wanted, back, htext, rfl, hfound⟩

/-- Nothing is found where the text stands nowhere. -/
theorem find?_plain_eq_none_iff :
    (plain false wanted).find? text = none ↔ ¬ wanted <:+: text := by
  simp only [(findsFirst_find?_plain false wanted text).eq_none_iff, occurs_iff, ← not_exists]
  refine not_congr ⟨?_, ?_⟩
  · rintro ⟨_, front, back, rfl, -⟩
    exact ⟨front, back, List.append_assoc front wanted back⟩
  · rintro ⟨front, back, rfl⟩
    exact ⟨_, front, back, List.append_assoc front wanted back, rfl⟩

/-- Plain text is found exactly at the first place where it stands in a line. -/
theorem find?_plain_eq_some_iff :
    (plain false wanted).find? text = some found ↔ IsFirst wanted text found := by
  have hfinds := findsFirst_find?_plain false wanted text
  constructor
  · intro hfound
    obtain ⟨front, back, htext, rfl⟩ := occurs_iff.1 (hfinds.isMatch found hfound)
    refine ⟨⟨front, back, htext, rfl⟩, rfl, ?_⟩
    intro other rest hother
    obtain ⟨first, hfirst, hle⟩ := hfinds.leftmost _ (occurs_iff.2 ⟨other, rest, hother, rfl⟩)
    obtain rfl := Option.some.inj (hfound.symm.trans hfirst)
    exact hle
  · rintro ⟨⟨front, back, htext, hstart⟩, hstop, hleast⟩
    obtain ⟨first, hfirst, hle⟩ := hfinds.leftmost _ (occurs_iff.2 ⟨front, back, htext, rfl⟩)
    obtain ⟨other, rest, hother, rfl⟩ := occurs_iff.1 (hfinds.isMatch first hfirst)
    have hsame : found.start = other.length := by
      have := hleast other rest hother
      simp only at hle
      omega
    obtain ⟨start, stop⟩ := found
    simp only at hsame hstop
    rw [hfirst, hstop, hsame]

end Matcher

namespace Search

variable {disk : Disk} {path : Path} {find? : List Char → Option Found} {fromMatch : Bool}
  {number : Nat} {item : SearchItem}

/-! ### Texts that are searched -/

/-- A file is searched if its bytes are those of a text and none of the first ones is zero. -/
def Searched (disk : Disk) (path : Path) (text : List Char) : Prop :=
  ∃ bytes, disk.read? path = some bytes ∧
    (∀ (i : Nat) (h : i < bytes.size), i < 1024 → bytes[i] ≠ 0) ∧
    String.fromUTF8? bytes = some (String.ofList text)

theorem toList_loop (bytes : ByteArray) (i : Nat) (begun : List UInt8) :
    ByteArray.toList.loop bytes i begun = begun.reverse ++ bytes.data.toList.drop i := by
  induction hn : bytes.size - i generalizing i begun with
  | zero =>
      have hle : bytes.data.toList.length ≤ i := Nat.le_of_sub_eq_zero hn
      rw [ByteArray.toList.loop, if_neg (by simpa using hle), List.drop_of_length_le hle,
        List.append_nil]
  | succ n ih =>
      have hlt : i < bytes.size := by omega
      have hlength : i < bytes.data.toList.length := hlt
      rw [ByteArray.toList.loop, if_pos hlt, ih (i + 1) _ (by omega),
        List.drop_eq_getElem_cons hlength, List.reverse_cons, List.append_assoc,
        List.singleton_append]
      have hbyte : bytes.get! i = bytes.data.toList[i] := by
        rw [ByteArray.get!, Array.getElem_toList, getElem!_pos bytes.data i hlength]
      rw [hbyte]

/-- Bytes are not binary if no zero is among the first ones. -/
theorem isBinary_eq_false_iff (bytes : ByteArray) :
    isBinary bytes = false ↔ ∀ (i : Nat) (h : i < bytes.size), i < 1024 → bytes[i] ≠ 0 := by
  have hlist : (bytes.extract 0 sniffedBytes).toList = bytes.data.toList.take 1024 := by
    rw [ByteArray.toList, toList_loop]
    simp [sniffedBytes, ByteArray.data_extract, List.extract]
  rw [isBinary, hlist, Bool.eq_false_iff, ne_eq, List.contains_iff_mem,
    List.mem_take_iff_getElem, not_exists]
  constructor
  · intro hzero i hsize hfirst hbyte
    exact hzero i ⟨Nat.lt_min.2 ⟨hfirst, hsize⟩, hbyte⟩
  · rintro hzero i ⟨hi, hbyte⟩
    obtain ⟨hfirst, hsize⟩ := Nat.lt_min.1 hi
    exact hzero i hsize hfirst hbyte

theorem textAt?_eq_some_iff : textAt? disk path = some text ↔ Searched disk path text := by
  rw [textAt?, isBinaryFile, Searched]
  cases hread : disk.read? path with
  | none => simp
  | some bytes =>
      have hread? : disk.readText? path = (String.fromUTF8? bytes).map (·.toList) := by
        rw [Disk.readText?, hread, Option.map_eq_bind]
        rfl
      have htext : disk.readText? path = some text ↔
          String.fromUTF8? bytes = some (String.ofList text) := by
        rw [hread?, Option.map_eq_some_iff]
        constructor
        · rintro ⟨string, hstring, rfl⟩
          rw [hstring, String.ofList_toList]
        · intro hstring
          exact ⟨_, hstring, String.toList_ofList⟩
      simp only [Option.all_some, Option.ite_none_left_eq_some, Bool.not_eq_true,
        isBinary_eq_false_iff, htext, Option.some.injEq, exists_eq_left']

/-! ### Items -/

/-- What is reported of a line with a match. -/
structure IsItem (fromMatch : Bool) (path : Path) (line : List Char) (number : Nat)
    (found : Found) (item : SearchItem) : Prop where
  path_eq : item.path = path
  line_eq : item.line = number
  stop_eq : item.stop = Text.byteLength (line.take found.stop)
  snippet : ∃ shown, Text.IsTrimmed (if fromMatch then line.drop found.start else line) shown ∧
    Text.IsFitting 50 shown item.snippet

theorem lineItem?_eq_some_iff :
    lineItem? find? fromMatch path line number = some item ↔
      ∃ found, find? line = some found ∧
        IsItem fromMatch path line number found item := by
  rw [lineItem?, Option.map_eq_some_iff]
  refine exists_congr fun found => and_congr_right fun _ => ?_
  constructor
  · rintro rfl
    exact ⟨rfl, rfl, rfl, _, Text.isTrimmed_iff.2 rfl, Text.isFitting_iff.2 rfl⟩
  · rintro ⟨rfl, rfl, hstop, shown, hshown, hsnippet⟩
    obtain rfl := Text.isTrimmed_iff.1 hshown
    have hsame := Text.isFitting_iff.1 hsnippet
    cases item
    simp only at hstop hsame
    rw [hstop, hsame]
    rfl

end Search

end EditorCore
