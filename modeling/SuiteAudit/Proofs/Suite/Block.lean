import SuiteAudit.Proofs.Suite.TestName
import SuiteAudit.Suite.Comparison
import Mathlib.Tactic.IntervalCases
import Mathlib.Tactic.Set
/-!
# Suites — the form of a covering block

`BlockFits` spells the form of a block out as an append, with the classes of the
characters of each part, and says nothing of how it is read. `coveringBlock?`
reads exactly this form (`coveringBlock?_eq_some_iff`), and since it is a function
the label, the name and what follows them are fixed by the text. Within a block
the call `test('` opens once more only at its very end, where a name that ends in
`test` can run into the next call (`stop_of_call_inside`).
-/

namespace SuiteAudit

open Text

variable {cs label name rest : List Char}

/-- A line break: a line feed, or a carriage return and a line feed. -/
inductive LineBreak : List Char → Prop
  | lineFeed : LineBreak ['\n']
  | carriageReturn : LineBreak ['\r', '\n']

/-- **The form of a block.** The text `cs` opens with the call of a test, its label, the end of
that line, blanks and the comment that names a reference test; `rest` is what follows the name,
which does not go on with a word character. -/
def BlockFits (cs label name rest : List Char) : Prop :=
  IsRun isLabelChar label ∧ IsTestName name ∧ StopsAt isWord rest ∧
    ∃ brk gap, LineBreak brk ∧ IsRun isBlank gap ∧
      cs = "test('".toList ++ label ++ "', () => \x7b".toList ++ brk ++ gap ++ "// ".toList ++
        name ++ rest

/-! ## The readers of the parts -/

/-- A label character is none of the signs around a label. -/
theorem isLabelChar_quote : isLabelChar '\'' = false := by
  decide

theorem readLabel?_eq_some_iff :
    readLabel? cs = some (label, rest) ↔
      IsRun isLabelChar label ∧ StopsAt isLabelChar rest ∧ cs = label ++ rest := by
  simp only [readLabel?]
  constructor
  · intro h
    split at h
    · simp at h
    · rename_i hne
      simp only [Option.some.injEq, Prod.mk.injEq] at h
      obtain ⟨rfl, rfl⟩ := h
      exact ⟨⟨by simpa using hne, fun c hc => List.mem_takeWhile_imp hc⟩,
        stopsAt_dropWhile _ cs, List.takeWhile_append_dropWhile.symm⟩
  · rintro ⟨⟨hne, hlabel⟩, hrest, rfl⟩
    rw [takeWhile_run hlabel hrest, dropWhile_run hlabel hrest, if_neg (by simpa using hne)]

theorem readLineBreak?_eq_some_iff :
    readLineBreak? cs = some rest ↔ ∃ brk, LineBreak brk ∧ cs = brk ++ rest := by
  constructor
  · intro h
    unfold readLineBreak? at h
    split at h
    · exact ⟨_, .carriageReturn, by simpa using h⟩
    · exact ⟨_, .lineFeed, by simpa using h⟩
    · simp at h
  · rintro ⟨brk, hbrk, rfl⟩
    cases hbrk <;> rfl

theorem readBlanks?_eq_some_iff :
    readBlanks? cs = some rest ↔
      ∃ gap, IsRun isBlank gap ∧ StopsAt isBlank rest ∧ cs = gap ++ rest :=
  eq_some_iff_run rfl fun _ _ => rfl

theorem wordEnds_iff : wordEnds rest = true ↔ StopsAt isWord rest := by
  cases rest <;> simp [wordEnds]

/-! ## The reader of a block -/

/-- **A block is read exactly where its form fits.** -/
theorem coveringBlock?_eq_some_iff :
    coveringBlock? cs = some ((label, name), rest) ↔ BlockFits cs label name rest := by
  constructor
  · intro h
    simp only [coveringBlock?, Option.bind_eq_some_iff] at h
    obtain ⟨c₁, h₁, ⟨l, c₂⟩, h₂, c₃, h₃, c₄, h₄, c₅, h₅, c₆, h₆, ⟨n, c₇⟩, h₇, h₈⟩ := h
    split at h₈
    · rename_i hends
      simp only [Option.some.injEq, Prod.mk.injEq] at h₈
      obtain ⟨⟨rfl, rfl⟩, rfl⟩ := h₈
      obtain ⟨hlabel, -, rfl⟩ := readLabel?_eq_some_iff.1 h₂
      obtain ⟨brk, hbrk, rfl⟩ := readLineBreak?_eq_some_iff.1 h₄
      obtain ⟨gap, hgap, -, rfl⟩ := readBlanks?_eq_some_iff.1 h₅
      obtain ⟨hname, -, rfl⟩ := readTestName?_eq_some_iff.1 h₇
      refine ⟨hlabel, hname, wordEnds_iff.1 hends, brk, gap, hbrk, hgap, ?_⟩
      dsimp only at h₃
      rw [lead?_eq_some_iff.1 h₁, lead?_eq_some_iff.1 h₃, lead?_eq_some_iff.1 h₆]
      simp only [List.append_assoc]
    · simp at h₈
  · -- every run of the form stops where the part behind it begins
    rintro ⟨hlabel, hname, hrest, brk, gap, hbrk, hgap, rfl⟩
    simp only [coveringBlock?, List.append_assoc, Option.bind_eq_some_iff]
    refine ⟨_, lead?_eq_some_iff.2 rfl, ⟨label, _⟩,
      readLabel?_eq_some_iff.2 ⟨hlabel, ?_, rfl⟩, _, lead?_eq_some_iff.2 rfl, _,
      readLineBreak?_eq_some_iff.2 ⟨brk, hbrk, rfl⟩, _,
      readBlanks?_eq_some_iff.2 ⟨gap, hgap, ?_, rfl⟩, _, lead?_eq_some_iff.2 rfl, ⟨name, rest⟩,
      readTestName?_eq_some_iff.2
        ⟨hname, hrest.mono fun c => isWord_of_isNameChar, rfl⟩, ?_⟩
    · exact stopsAt_cons.2 isLabelChar_quote
    · exact stopsAt_cons.2 (by decide)
    · rw [if_pos (wordEnds_iff.2 hrest)]

/-- **A text fits the form in at most one way.** -/
theorem BlockFits.unique {label' name' rest' : List Char} (h : BlockFits cs label name rest)
    (h' : BlockFits cs label' name' rest') : label = label' ∧ name = name' ∧ rest = rest' := by
  have hread := coveringBlock?_eq_some_iff.2 h
  rw [coveringBlock?_eq_some_iff.2 h'] at hread
  simp only [Option.some.injEq, Prod.mk.injEq] at hread
  obtain ⟨⟨rfl, rfl⟩, rfl⟩ := hread
  exact ⟨rfl, rfl, rfl⟩

/-- What follows a block is the end of the text. -/
theorem BlockFits.suffix (h : BlockFits cs label name rest) : rest <:+ cs := by
  obtain ⟨-, -, -, brk, gap, -, -, rfl⟩ := h
  exact List.suffix_append _ _

/-- No block is read where none fits. -/
theorem coveringBlock?_eq_none_iff :
    coveringBlock? cs = none ↔ ∀ label name rest, ¬ BlockFits cs label name rest := by
  rw [Option.eq_none_iff_forall_ne_some]
  constructor
  · intro h label name rest hfits
    exact h _ (coveringBlock?_eq_some_iff.2 hfits)
  · rintro h ⟨⟨label, name⟩, rest⟩ hread
    exact h label name rest (coveringBlock?_eq_some_iff.1 hread)

/-! ## Calls inside a block

Where a call opens inside a block, its letters `test` are a run of word characters that the sign
`(` stops. A label is stopped by a quote, the signs and blanks behind it hold no letters, so that
the run can only be the last letters of the name. -/

/-- The letters and signs of a call open no second one. -/
theorem not_call_of_call {k : Nat} {ys zs : List Char} (hk : 0 < k) (hk6 : k < 6) :
    ("test('".toList ++ ys).drop k ≠ "test('".toList ++ zs := by
  intro h
  interval_cases k <;> simp at h

/-- A text that does not begin with a `t` opens no call. -/
theorem not_call_of_not_mem {run ys zs : List Char} (hne : run ≠ []) (hrun : 't' ∉ run) :
    run ++ ys ≠ "test('".toList ++ zs := by
  intro h
  cases run with
  | nil => exact hne rfl
  | cons c run =>
    obtain rfl : c = 't' := (List.cons.inj h).1
    exact hrun List.mem_cons_self

/-- Label characters in front of a quote open no call. -/
theorem not_call_of_label {run ys zs : List Char} (hrun : ∀ c ∈ run, isLabelChar c = true) :
    run ++ '\'' :: ys ≠ "test('".toList ++ zs := by
  intro h
  have htest : ∀ c ∈ "test".toList, isLabelChar c = true := List.all_eq_true.1 rfl
  have hstop : StopsAt isLabelChar ('(' :: '\'' :: zs) := stopsAt_cons.2 (by decide)
  obtain rfl := run_unique hrun (stopsAt_cons.2 isLabelChar_quote) htest hstop h
  simp at h

/-- Word characters that end in front of something else open a call only if they are its
letters. -/
theorem eq_test_of_call {run zs : List Char} (hrun : ∀ c ∈ run, isWord c = true)
    (hrest : StopsAt isWord rest) (h : run ++ rest = "test('".toList ++ zs) :
    run = "test".toList := by
  have htest : ∀ c ∈ "test".toList, isWord c = true := List.all_eq_true.1 rfl
  have hstop : StopsAt isWord ('(' :: '\'' :: zs) := stopsAt_cons.2 (by decide)
  exact run_unique hrun hrest htest hstop h

/-- Between a label and a name stand signs and blanks. -/
theorem t_not_mem_between {brk gap : List Char} (hbrk : LineBreak brk) (hgap : IsRun isBlank gap) :
    't' ∉ "', () => \x7b".toList ++ brk ++ gap ++ "// ".toList := by
  have hbrkNot : 't' ∉ brk := by
    cases hbrk <;> decide
  have hgapNot : 't' ∉ gap := not_mem_run hgap.2 (by decide)
  simp only [List.mem_append, not_or]
  exact ⟨⟨⟨by decide, hbrkNot⟩, hgapNot⟩, by decide⟩

/-- **A call inside a block opens with the last four letters of its name.** -/
theorem stop_of_call_inside {zs : List Char} {k : Nat} (h : BlockFits cs label name rest)
    (hk : 0 < k) (hstop : k + rest.length < cs.length)
    (hcall : cs.drop k = "test('".toList ++ zs) :
    k + 4 + rest.length = cs.length ∧ "test".toList <:+ name := by
  obtain ⟨⟨-, hlabel⟩, hname, hrest, brk, gap, hbrk, hgap, hform⟩ := h
  have hbetween := t_not_mem_between hbrk hgap
  set between := "', () => \x7b".toList ++ brk ++ gap ++ "// ".toList with hb
  have hcs : cs = "test('".toList ++ (label ++ (between ++ (name ++ rest))) := by
    simp only [hform, hb, List.append_assoc]
  subst hcs
  rcases drop_append_cases "test('".toList (label ++ (between ++ (name ++ rest))) k with
    ⟨run, hne, -, hlen, -⟩ | ⟨k, rfl, hdrop⟩
  · -- inside the call itself
    have hpos := List.length_pos_iff.2 hne
    have hcall6 : "test('".toList.length = 6 := rfl
    exact absurd hcall (not_call_of_call hk (by omega))
  rw [hdrop] at hcall
  rcases drop_append_cases label (between ++ (name ++ rest)) k with
    ⟨run, -, hsuf, -, hdrop⟩ | ⟨k, rfl, hdrop⟩
  · -- inside the label
    rw [hdrop, hb] at hcall
    exact absurd hcall (not_call_of_label fun c hc => hlabel c (hsuf.subset hc))
  rw [hdrop] at hcall
  rcases drop_append_cases between (name ++ rest) k with
    ⟨run, hne, hsuf, -, hdrop⟩ | ⟨k, rfl, hdrop⟩
  · -- between the label and the name
    rw [hdrop] at hcall
    exact absurd hcall (not_call_of_not_mem hne fun hmem => hbetween (hsuf.subset hmem))
  rw [hdrop] at hcall
  rcases drop_append_cases name rest k with ⟨run, -, hsuf, hlen, hdrop⟩ | ⟨k, rfl, -⟩
  · -- inside the name
    rw [hdrop] at hcall
    have hrun := eq_test_of_call (fun c hc => isWord_of_mem_testName hname c (hsuf.subset hc))
      hrest hcall
    subst hrun
    have htest4 : "test".toList.length = 4 := rfl
    simp only [List.length_append]
    exact ⟨by omega, hsuf⟩
  · -- behind the name
    simp only [List.length_append] at hstop
    omega

end SuiteAudit
