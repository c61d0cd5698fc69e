import EditorCore.Proofs.Text.Decimal
import EditorCore.Session
import Mathlib.Data.List.Basic

/-!
# Generated names

All names that a session hands out are made with one counter, so no number is used twice
before the counter goes round. A number is written between a stem and an extension, though,
and the text of a path does not tell where it begins: a digit may as well be the end of a
stem. Two calls are given the same path exactly if one of the two fronts goes on, behind the
other, with digits that the number of the other one begins with.
-/

namespace EditorCore

theorem Path.join_append {text : List Char} (h : text ≠ []) (base : Path) (more : List Char) :
    base.join ⟨text ++ more⟩ = ⟨(base.join ⟨text⟩).chars ++ more⟩ := by
  obtain ⟨c, cs, rfl⟩ := List.exists_cons_of_ne_nil h
  simp only [join, isAbsolute, List.cons_append, List.head?_cons]
  split
  · rfl
  · split
    · simp
    · simp

namespace Session

/-! ### Calls -/

/-- A call that is answered with the path of a new file. -/
inductive Naming where
  /-- A path with an extension and perhaps a stem. -/
  | next (extension : List Char) (stem : Option (List Char))
  /-- A path for a copy of a file. -/
  | duplicate (path : Path)
  /-- The path of a new document with an extension. -/
  | newDocument (extension : List Char)

namespace Naming

/-- The stem that a call asks for. -/
def stem : Naming → Option (List Char)
  | .next _ stem => stem
  | .duplicate path => path.fileStem?
  | .newDocument _ => none

/-- The extension that a call asks for. -/
def extension : Naming → List Char
  | .next extension _ => extension
  | .duplicate path => path.extension?.getD []
  | .newDocument extension => extension

/-- The text of a path in front of its number, in a project folder. -/
def front (root : Path) (call : Naming) : List Char :=
  (root.join ⟨stemOrUnnamed call.stem⟩).chars

/-- The path that a call is answered with, and the session that it leaves. -/
def answer (session : Session) (disk : Disk) : Naming → Option Path × Session
  | .next extension stem =>
    let (path, left) := session.nextNewPath disk extension stem
    (some path, left)
  | .duplicate path =>
    let (copy, left) := session.duplicatePath disk path
    (some copy, left)
  | .newDocument extension =>
    let (index, left) := session.newDocument disk extension
    ((left.document? index).bind (·.path), left)

end Naming

/-- A path that was handed out, with what it was made of. -/
structure Issue where
  /-- The text in front of the number. -/
  front : List Char
  /-- The number that was tried last. -/
  number : Nat
  /-- The extension behind the number. -/
  ending : List Char
  /-- The path. -/
  path : Option Path
deriving DecidableEq

/-- What is handed out in answer to some calls, one after the other, on any disks. -/
def issues (session : Session) : List (Naming × Disk) → List Issue
  | [] => []
  | (call, disk) :: rest =>
    let (path, left) := call.answer session disk
    ⟨call.front session.root, (left.counter - 1).toNat, normalizeExtension call.extension, path⟩ ::
      left.issues rest

/-! ### Numbers -/

/--
Every one of some calls leaves a greater number than it began with. So the counter does not
come to the end of its 32 bits.
-/
def CountsUp (session : Session) : List (Naming × Disk) → Prop
  | [] => True
  | (call, disk) :: rest =>
    session.counter < (call.answer session disk).2.counter ∧
      (call.answer session disk).2.CountsUp rest

variable {session : Session} {calls : List (Naming × Disk)} {number : UInt32}

/--
Some numbers are passed over, all of them taken; then a free one is found, unless that was
the last try.
-/
theorem firstFree_spec (disk : Disk) (path : Nat → Path) (tries : Nat) (number : UInt32) :
    ∃ passed ≤ tries, firstFree disk path tries number = number + .ofNat passed ∧
      (∀ n < passed, disk.hasPath (path (number + .ofNat n).toNat) = true) ∧
      (passed < tries → disk.hasPath (path (number + .ofNat passed).toNat) = false) := by
  induction tries generalizing number with
  | zero => exact ⟨0, Nat.le_refl 0, by simp [firstFree], by simp, by simp⟩
  | succ tries ih =>
      rw [firstFree]
      split
      · next htaken =>
          obtain ⟨passed, hle, hnumber, hpassed, hfree⟩ := ih (number + 1)
          have hsucc : ∀ n, number + 1 + .ofNat n = number + .ofNat (n + 1) := by
            intro n
            rw [UInt32.ofNat_add, UInt32.add_assoc, UInt32.add_comm 1]
            rfl
          refine ⟨passed + 1, by omega, by rw [hnumber, hsucc], ?_, ?_⟩
          · intro n hn
            cases n with
            | zero => simpa using htaken
            | succ n =>
                rw [← hsucc]
                exact hpassed n (by omega)
          · intro hlt
            rw [← hsucc]
            exact hfree (by omega)
      · next hnot => exact ⟨0, by omega, by simp, by simp, fun _ => by simpa using hnot⟩

theorem stemOrUnnamed_ne_nil (stem : Option (List Char)) : stemOrUnnamed stem ≠ [] := by
  have hunnamed : Document.unnamed ≠ [] := by decide
  rw [stemOrUnnamed]
  cases hstem : stem.filter (!·.isEmpty) with
  | none => exact hunnamed
  | some stem => simpa using (Option.filter_eq_some_iff.1 hstem).2

/-- What stands behind the number does not begin with a digit. -/
theorem head?_normalizeExtension (extension : List Char) :
    ∀ c ∈ (normalizeExtension extension).head?, c = '.' := by
  rw [normalizeExtension]
  split
  · simp
  · simp

/-- The digits of a number, with the extension that stands behind them. -/
def Issue.tail (issue : Issue) : List Char := (toString issue.number).toList ++ issue.ending

/-- An issue says truly what its path was made of. -/
structure Issue.IsSound (issue : Issue) : Prop where
  path : issue.path = some ⟨issue.front ++ issue.tail⟩
  ending : ∀ c ∈ issue.ending.head?, c = '.'

/-- A generated path has its number between the stem and the extension, and uses it up. -/
theorem exists_nextNewPath (session : Session) (disk : Disk) (extension : List Char)
    (stem : Option (List Char)) : ∃ passed < nameAttempts,
      session.nextNewPath disk extension stem =
        (⟨(session.root.join ⟨stemOrUnnamed stem⟩).chars ++
          ((toString (session.counter + .ofNat passed).toNat).toList ++
            normalizeExtension extension)⟩,
          { session with counter := session.counter + .ofNat passed + 1 }) := by
  obtain ⟨passed, hpassed, hnumber, -⟩ := firstFree_spec disk (candidate session.root
    (stemOrUnnamed stem) (normalizeExtension extension)) (nameAttempts - 1) session.counter
  refine ⟨passed, by rw [nameAttempts] at hpassed ⊢; omega, ?_⟩
  simp only [nextNewPath, hnumber]
  rw [candidate, List.append_assoc, Path.join_append (stemOrUnnamed_ne_nil stem)]

/-- One call: the path has a number, and the counter goes on behind it. -/
theorem Naming.exists_answer (session : Session) (disk : Disk) (call : Naming) :
    ∃ passed left, passed < nameAttempts ∧
      call.answer session disk = (some ⟨call.front session.root ++
        ((toString (session.counter + .ofNat passed).toNat).toList ++
          normalizeExtension call.extension)⟩, left) ∧
      left.counter = session.counter + .ofNat passed + 1 := by
  cases call with
  | next extension stem =>
      obtain ⟨passed, hpassed, hnext⟩ := exists_nextNewPath session disk extension stem
      refine ⟨passed, { session with counter := _ }, hpassed, ?_, rfl⟩
      rw [answer, hnext]
      rfl
  | duplicate path =>
      obtain ⟨passed, hpassed, hnext⟩ :=
        exists_nextNewPath session disk (path.extension?.getD []) path.fileStem?
      refine ⟨passed, { session with counter := _ }, hpassed, ?_, rfl⟩
      rw [answer, duplicatePath, hnext]
      rfl
  | newDocument extension =>
      obtain ⟨passed, hpassed, hnext⟩ := exists_nextNewPath session disk extension none
      refine ⟨passed, (session.newDocument disk extension).2, hpassed, ?_, ?_⟩
      · rw [answer, Session.newDocument, hnext]
        simp [document?, Document.untitled, front, stem, Naming.extension]
      · rw [Session.newDocument, hnext]

/-- A counter that goes up has not gone round. -/
theorem toNat_of_lt_counter {passed : Nat} (hpassed : passed < nameAttempts)
    (h : number < number + .ofNat passed + 1) :
    (number + .ofNat passed).toNat = number.toNat + passed ∧
      (number + .ofNat passed + 1).toNat = number.toNat + passed + 1 := by
  have hnumber := number.toNat_lt
  rw [nameAttempts] at hpassed
  simp only [UInt32.lt_iff_toNat_lt, UInt32.toNat_add, UInt32.toNat_ofNat', UInt32.toNat_one] at h ⊢
  omega

/-- A run of calls: every issue is sound. -/
theorem isSound_of_mem_issues {issue : Issue} (h : issue ∈ session.issues calls) :
    issue.IsSound := by
  induction calls generalizing session with
  | nil => simp [issues] at h
  | cons first rest ih =>
      obtain ⟨call, disk⟩ := first
      obtain ⟨passed, left, -, hanswer, hcounter⟩ := call.exists_answer session disk
      rw [issues, hanswer, List.mem_cons] at h
      rcases h with rfl | h
      · simp only [hcounter, UInt32.add_sub_cancel]
        exact ⟨rfl, head?_normalizeExtension _⟩
      · exact ih h

/-- A run of calls that counts up: no number is below the counter. -/
theorem le_number_of_mem_issues (hup : session.CountsUp calls) {issue : Issue}
    (h : issue ∈ session.issues calls) : session.counter.toNat ≤ issue.number := by
  induction calls generalizing session with
  | nil => simp [issues] at h
  | cons first rest ih =>
      obtain ⟨call, disk⟩ := first
      obtain ⟨passed, left, hpassed, hanswer, hcounter⟩ := call.exists_answer session disk
      rw [CountsUp, hanswer] at hup
      rw [issues, hanswer, List.mem_cons] at h
      obtain ⟨hlt, hrest⟩ := hup
      simp only [hcounter] at hlt
      obtain ⟨hnumber, hleft⟩ := toNat_of_lt_counter hpassed hlt
      rcases h with rfl | h
      · simp only [hcounter, UInt32.add_sub_cancel]
        omega
      · have := ih hrest h
        rw [hcounter] at this
        omega

/-- A run of calls that counts up: the numbers go up, whatever is asked for. -/
theorem issues_pairwise (hup : session.CountsUp calls) :
    (session.issues calls).Pairwise (·.number < ·.number) := by
  induction calls generalizing session with
  | nil => simp [issues]
  | cons first rest ih =>
      obtain ⟨call, disk⟩ := first
      obtain ⟨passed, left, hpassed, hanswer, hcounter⟩ := call.exists_answer session disk
      rw [CountsUp, hanswer] at hup
      rw [issues, hanswer, List.pairwise_cons]
      obtain ⟨hlt, hrest⟩ := hup
      simp only [hcounter] at hlt
      obtain ⟨hnumber, hleft⟩ := toNat_of_lt_counter hpassed hlt
      refine ⟨?_, ih hrest⟩
      intro later hlater
      have := le_number_of_mem_issues hrest hlater
      simp only [hcounter, UInt32.add_sub_cancel] at this ⊢
      omega

/-- A run of calls counts up if the numbers suffice for all its tries. -/
theorem countsUp_of_lt (h : session.counter.toNat + nameAttempts * calls.length < 4294967296) :
    session.CountsUp calls := by
  induction calls generalizing session with
  | nil => trivial
  | cons first rest ih =>
      obtain ⟨call, disk⟩ := first
      obtain ⟨passed, left, hpassed, hanswer, hcounter⟩ := call.exists_answer session disk
      have hattempts : nameAttempts * (rest.length + 1) =
          nameAttempts * rest.length + nameAttempts := Nat.mul_succ ..
      rw [List.length_cons, hattempts] at h
      have hleft : left.counter.toNat = session.counter.toNat + passed + 1 := by
        simp only [hcounter, UInt32.toNat_add, UInt32.toNat_ofNat', UInt32.toNat_one]
        omega
      rw [CountsUp, hanswer]
      refine ⟨?_, ih ?_⟩
      · rw [UInt32.lt_iff_toNat_lt, hleft]
        omega
      · rw [hleft]
        omega

/-! ### Fronts -/

/-- The number is read off what stands behind the front. -/
theorem Issue.takeWhile_tail {issue : Issue} (h : issue.IsSound) :
    issue.tail.takeWhile Char.isDigit = (toString issue.number).toList := by
  have hending : issue.ending.takeWhile Char.isDigit = [] := by
    cases hcases : issue.ending with
    | nil => rfl
    | cons c cs =>
        have hdot : c = '.' := h.ending c (by simp [hcases])
        simp [hdot]
  rw [tail, List.takeWhile_append_of_pos fun c hc => Text.isDigit_of_mem_toString hc, hending,
    List.append_nil]

/-- Behind one front, different numbers make different paths. -/
theorem Issue.tail_ne {a b : Issue} (ha : a.IsSound) (hb : b.IsSound)
    (h : a.number ≠ b.number) : a.tail ≠ b.tail := by
  intro htail
  have hdigits := congrArg (List.takeWhile Char.isDigit) htail
  rw [takeWhile_tail ha, takeWhile_tail hb] at hdigits
  have hread := congrArg (fun digits => Nat.ofDigitChars 10 digits 0) hdigits
  exact h (by simpa [Nat.toString_eq_repr] using hread)

/-- The tail of an issue begins with a digit. -/
theorem Issue.exists_tail_eq_cons (issue : Issue) :
    ∃ c cs, issue.tail = c :: cs ∧ c.isDigit = true := by
  obtain ⟨c, cs, hcons⟩ := List.exists_cons_of_ne_nil (Text.toString_ne_nil issue.number)
  refine ⟨c, cs ++ issue.ending, ?_, ?_⟩
  · rw [tail, hcons, List.cons_append]
  · exact Text.isDigit_of_mem_toString (hcons ▸ List.mem_cons_self)

/-- A front goes on behind the front of an issue with the digits that its tail begins with. -/
def Issue.GoesOn (issue other : Issue) : Prop :=
  ∃ c more, c.isDigit = true ∧ other.front = issue.front ++ c :: more ∧
    issue.tail = c :: more ++ other.tail

/-- What lies between two fronts, if the texts are the same, begins with a digit. -/
theorem Issue.goesOn_of_append {a b : Issue} (ha : a.IsSound) (hb : b.IsSound)
    (hne : a.number ≠ b.number) {between : List Char} (hfront : b.front = a.front ++ between)
    (htail : a.tail = between ++ b.tail) : a.GoesOn b := by
  cases between with
  | nil => exact absurd htail (tail_ne ha hb hne)
  | cons c more =>
      obtain ⟨d, ds, hcons, hdigit⟩ := a.exists_tail_eq_cons
      rw [htail, List.cons_append, List.cons.injEq] at hcons
      exact ⟨c, more, hcons.1 ▸ hdigit, hfront, htail⟩

theorem Issue.GoesOn.append_eq {a b : Issue} (h : a.GoesOn b) :
    a.front ++ a.tail = b.front ++ b.tail := by
  obtain ⟨c, more, -, hfront, htail⟩ := h
  rw [hfront, htail]
  simp

/--
Of two paths that a session hands out while its counter goes up, the later one has the greater
number; and they are the same path exactly if one front goes on behind the other with a part,
digit first, of what the other has behind its front. In particular two calls for one stem never
are given the same path.
-/
theorem issues_path_eq_iff {a b : Issue} (hup : session.CountsUp calls)
    (h : [a, b].Sublist (session.issues calls)) :
    a.number < b.number ∧ (a.path = b.path ↔ a.GoesOn b ∨ b.GoesOn a) := by
  have hnumber : a.number < b.number :=
    List.pairwise_iff_forall_sublist.1 (issues_pairwise hup) h
  have ha := isSound_of_mem_issues (h.subset (by simp : a ∈ [a, b]))
  have hb := isSound_of_mem_issues (h.subset (by simp : b ∈ [a, b]))
  refine ⟨hnumber, ?_⟩
  rw [ha.path, hb.path, Option.some.injEq, Path.mk.injEq]
  constructor
  · intro htext
    rcases List.append_eq_append_iff.1 htext with
      ⟨between, hfront, htail⟩ | ⟨between, hfront, htail⟩
    · exact .inl (Issue.goesOn_of_append ha hb (Nat.ne_of_lt hnumber) hfront htail)
    · exact .inr (Issue.goesOn_of_append hb ha (Nat.ne_of_gt hnumber) hfront htail)
  · rintro (hgoes | hgoes)
    · exact hgoes.append_eq
    · exact hgoes.append_eq.symm

/-- The stem `x` and the extension `2` make the path that the stem `x1.` makes next. -/
theorem issues_path_eq_x : ∃ a b : Issue,
    [a, b].Sublist ((ofRoot ⟨['.']⟩).issues
      [(.next ['2'] (some ['x']), ⟨.empty, [], fun _ => true, fun _ => true⟩),
        (.next [] (some ['x', '1', '.']), ⟨.empty, [], fun _ => true, fun _ => true⟩)]) ∧
      a.number < b.number ∧ a.path = some ⟨['.', '/', 'x', '1', '.', '2']⟩ ∧
      a.path = b.path := by
  have hissues : [⟨['.', '/', 'x'], 1, ['.', '2'], some ⟨['.', '/', 'x', '1', '.', '2']⟩⟩,
      ⟨['.', '/', 'x', '1', '.'], 2, [], some ⟨['.', '/', 'x', '1', '.', '2']⟩⟩].Sublist
        ((ofRoot ⟨['.']⟩).issues
          [(.next ['2'] (some ['x']), ⟨.empty, [], fun _ => true, fun _ => true⟩),
            (.next [] (some ['x', '1', '.']), ⟨.empty, [], fun _ => true, fun _ => true⟩)]) := by
    decide +kernel
  obtain ⟨hnumber, hpath⟩ := issues_path_eq_iff (countsUp_of_lt (by decide)) hissues
  exact ⟨_, _, hissues, hnumber, rfl,
    hpath.2 (.inl ⟨'1', ['.'], by decide, by decide, by decide +kernel⟩)⟩

end Session

end EditorCore
