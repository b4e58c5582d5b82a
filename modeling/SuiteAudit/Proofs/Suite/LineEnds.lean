import SuiteAudit.Proofs.Suite.BlockScan
import SuiteAudit.Proofs.Suite.Declaration
/-!
# Suites — line ends with a carriage return

A source may come with a carriage return in front of each of its line feeds. Every reader
of a part answers such a text as it answers the text without them: where it reads the one,
it reads the other, up to the same place. For the readers of fixed words and of runs this
holds because no word has a line end in it and a class of characters has both of its signs
or neither. The line break behind a call is read with a carriage return or without one, so
that here alone the text must have none before.

The readers of both suites follow, part by part (`declaration?_withReturns`,
`coveringBlock?_withReturns`), and then the two scans.
-/

namespace SuiteAudit

namespace Text

variable {p : Char → Bool} {cs cs' : List Char} {c : Char}

/-- **A text with a carriage return in front of every line feed.** -/
def withReturns (cs : List Char) : List Char :=
  cs.flatMap fun c => if c = '\n' then ['\r', '\n'] else [c]

@[simp] theorem withReturns_nil : withReturns [] = [] := rfl

@[simp] theorem withReturns_newline_cons :
    withReturns ('\n' :: cs) = '\r' :: '\n' :: withReturns cs := rfl

theorem withReturns_cons (hc : c ≠ '\n') : withReturns (c :: cs) = c :: withReturns cs := by
  rw [withReturns, List.flatMap_cons, if_neg hc]
  rfl

/-- A text without line feeds stays as it is. -/
theorem withReturns_of_not_mem (h : '\n' ∉ cs) : withReturns cs = cs := by
  induction cs with
  | nil => rfl
  | cons c cs ih =>
    simp only [List.mem_cons, not_or] at h
    rw [withReturns_cons (Ne.symm h.1), ih h.2]

theorem isEmpty_withReturns : (withReturns cs).isEmpty = cs.isEmpty := by
  cases cs with
  | nil => rfl
  | cons c cs =>
    by_cases hc : c = '\n'
    · subst hc
      rfl
    · rw [withReturns_cons hc]
      rfl

/-! ## Runs and words -/

/-- A run of a class ends at the same place, if the class has both signs of a line end or
neither. -/
theorem takeWhile_withReturns (hp : p '\r' = p '\n') :
    (withReturns cs).takeWhile p = withReturns (cs.takeWhile p) := by
  induction cs with
  | nil => rfl
  | cons c cs ih =>
    by_cases hc : c = '\n'
    · subst hc
      cases hnl : p '\n' <;> simp [hp, hnl, ih]
    · rw [withReturns_cons hc]
      cases hpc : p c <;> simp [hpc, ih, withReturns_cons hc]

/-- And so it leaves the same behind. -/
theorem dropWhile_withReturns (hp : p '\r' = p '\n') :
    (withReturns cs).dropWhile p = withReturns (cs.dropWhile p) := by
  induction cs with
  | nil => rfl
  | cons c cs ih =>
    by_cases hc : c = '\n'
    · subst hc
      cases hnl : p '\n' <;> simp [hp, hnl, ih]
    · rw [withReturns_cons hc]
      cases hpc : p c <;> simp [hpc, ih, withReturns_cons hc]

/-- What stops a class stops it there, too. -/
theorem stopsAt_withReturns (hp : p '\r' = p '\n') :
    StopsAt p (withReturns cs) ↔ StopsAt p cs := by
  cases cs with
  | nil => simp
  | cons c cs =>
    by_cases hc : c = '\n'
    · subst hc
      simp [hp]
    · simp [withReturns_cons hc]

/-- **A reader of a run of one or more characters** reads the same run. -/
theorem readRun_withReturns {read : List Char → Option (List Char)} (hnil : read [] = none)
    (hcons : ∀ c cs, read (c :: cs) = if p c then some (cs.dropWhile p) else none)
    (hp : p '\r' = p '\n') : read (withReturns cs) = (read cs).map withReturns := by
  cases cs with
  | nil => rw [withReturns_nil, hnil, Option.map_none]
  | cons c cs =>
    by_cases hc : c = '\n'
    · subst hc
      rw [withReturns_newline_cons, hcons, hcons, hp]
      cases hnl : p '\n' <;> simp [hnl, dropWhile_withReturns hp]
    · rw [withReturns_cons hc, hcons, hcons, dropWhile_withReturns hp]
      cases p c <;> rfl

/-- A word without line ends is read in front of the same rest. -/
theorem lead?_withReturns {word : List Char} (hnl : '\n' ∉ word) (hcr : '\r' ∉ word) :
    lead? word (withReturns cs) = (lead? word cs).map withReturns := by
  induction word generalizing cs with
  | nil => rfl
  | cons a word ih =>
    simp only [List.mem_cons, not_or] at hnl hcr
    cases cs with
    | nil => rfl
    | cons c cs =>
      by_cases hc : c = '\n'
      · subst hc
        simp [lead?, Ne.symm hnl.1, Ne.symm hcr.1]
      · rw [withReturns_cons hc]
        by_cases hac : a = c
        · simp [lead?, hac, ih hnl.2 hcr.2]
        · simp [lead?, hac]

end Text

open Text

variable {cs : List Char}

/-- A test name is read in front of the same rest. -/
theorem readTestName?_withReturns :
    readTestName? (withReturns cs) = (readTestName? cs).map (Prod.map id withReturns) := by
  have hp : isNameChar '\r' = isNameChar '\n' := by decide
  rw [readTestName?, readTestName?, lead?_withReturns (by decide) (by decide)]
  cases lead? "test_".toList cs with
  | none => rfl
  | some rest =>
    have hrun : '\n' ∉ rest.takeWhile isNameChar :=
      not_mem_run (fun c hc => List.mem_takeWhile_imp hc) (by decide)
    simp only [Option.map_some, Option.bind_some, takeWhile_withReturns hp,
      dropWhile_withReturns hp, withReturns_of_not_mem hrun]
    split <;> rfl

/-! ## Declarations -/

theorem readGap?_withReturns : readGap? (withReturns cs) = (readGap? cs).map withReturns :=
  readRun_withReturns (p := isIndent) rfl (fun _ _ => rfl) (by decide)

theorem skipAsync?_withReturns :
    skipAsync? (withReturns cs) = (skipAsync? cs).map withReturns := by
  rw [skipAsync?, skipAsync?, lead?_withReturns (by decide) (by decide)]
  cases lead? "async".toList cs with
  | none => rfl
  | some rest => exact readGap?_withReturns

/-- **A declaration is read off a text with carriage returns as off one without them.** -/
theorem declaration?_withReturns :
    declaration? (withReturns cs) = (declaration? cs).map (Prod.map id withReturns) := by
  have hdef : ∀ cs : List Char,
      lead? "def".toList (withReturns cs) = (lead? "def".toList cs).map withReturns :=
    fun _ => lead?_withReturns (by decide) (by decide)
  have hopen : ∀ cs : List Char,
      lead? "(".toList (withReturns cs) = (lead? "(".toList cs).map withReturns :=
    fun _ => lead?_withReturns (by decide) (by decide)
  rw [declaration?, declaration?, dropWhile_withReturns (by decide), skipAsync?_withReturns]
  simp only [Option.bind_map, Option.map_bind, Function.comp_def, hdef, readGap?_withReturns,
    readTestName?_withReturns, Prod.map, id, hopen, Option.map_map]

/-- **The declarations of a text stay the same** when it gets carriage returns. The induction is on
the scan, which passes over the carriage return at the end of a line inside the line. -/
theorem declarations_withReturns (atLineStart : Bool) (cs : List Char) :
    declarations atLineStart (withReturns cs) = declarations atLineStart cs := by
  fun_induction declarations atLineStart cs with
  | case1 atLineStart cs name rest hread ih =>
    cases atLineStart with
    | false => cases hread
    | true =>
      have hread' : declaration? (withReturns cs) = some (name, withReturns rest) := by
        rw [declaration?_withReturns, show declaration? cs = some (name, rest) from hread]
        rfl
      rw [declarations_true_of_some hread', ih]
  | case2 atLineStart hread =>
    rw [withReturns_nil]
    cases atLineStart with
    | false => rw [declarations_false_nil]
    | true => rw [declarations_true_of_none hread, declarations_false_nil]
  | case3 atLineStart c cs hread ih =>
    -- where a declaration could start, none does
    have hpass : declarations atLineStart (withReturns (c :: cs)) =
        declarations false (withReturns (c :: cs)) := by
      cases atLineStart with
      | false => rfl
      | true =>
        refine declarations_true_of_none ?_
        rw [declaration?_withReturns, show declaration? (c :: cs) = none from hread]
        rfl
    rw [hpass, ← ih]
    by_cases hc : c = '\n'
    · subst hc
      have hcr : ('\r' == '\n') = false := rfl
      rw [withReturns_newline_cons, declarations_false_cons, hcr, declarations_false_cons]
    · rw [withReturns_cons hc, declarations_false_cons]

/-! ## Blocks -/

theorem readBlanks?_withReturns :
    readBlanks? (withReturns cs) = (readBlanks? cs).map withReturns :=
  readRun_withReturns (p := isBlank) rfl (fun _ _ => rfl) (by decide)

theorem readLabel?_withReturns :
    readLabel? (withReturns cs) = (readLabel? cs).map (Prod.map withReturns withReturns) := by
  have hp : isLabelChar '\r' = isLabelChar '\n' := by decide
  rw [readLabel?, readLabel?, takeWhile_withReturns hp, dropWhile_withReturns hp,
    isEmpty_withReturns]
  split <;> rfl

/-- The break of a line gets its carriage return, where the text has none before. -/
theorem readLineBreak?_withReturns (h : '\r' ∉ cs) :
    readLineBreak? (withReturns cs) = (readLineBreak? cs).map withReturns := by
  cases cs with
  | nil => rfl
  | cons c cs =>
    simp only [List.mem_cons, not_or] at h
    by_cases hc : c = '\n'
    · subst hc
      rfl
    · rw [withReturns_cons hc]
      simp [readLineBreak?, hc, Ne.symm h.1]

theorem wordEnds_withReturns : wordEnds (withReturns cs) = wordEnds cs := by
  have hp : isWord '\r' = isWord '\n' := by decide
  rw [Bool.eq_iff_iff, wordEnds_iff, wordEnds_iff, stopsAt_withReturns hp]

/-- **A block is read off a text with carriage returns as off one without them**, up to those that
its label gets. -/
theorem coveringBlock?_withReturns (h : '\r' ∉ cs) :
    coveringBlock? (withReturns cs) =
      (coveringBlock? cs).map (Prod.map (Prod.map withReturns id) withReturns) := by
  have hcomment : ∀ cs : List Char,
      lead? "// ".toList (withReturns cs) = (lead? "// ".toList cs).map withReturns :=
    fun _ => lead?_withReturns (by decide) (by decide)
  rw [coveringBlock?, coveringBlock?, lead?_withReturns (by decide) (by decide), Option.bind_map,
    Option.map_bind]
  refine Option.bind_congr fun c₁ h₁ => ?_
  rw [Function.comp_apply, readLabel?_withReturns, Option.bind_map, Function.comp_apply,
    Option.map_bind]
  refine Option.bind_congr fun labelled h₂ => ?_
  obtain ⟨label, c₂⟩ := labelled
  dsimp only [Function.comp_apply, Prod.map]
  rw [lead?_withReturns (by decide) (by decide), Option.bind_map, Option.map_bind]
  refine Option.bind_congr fun c₃ h₃ => ?_
  -- what is left in front of the line break is a part of the text
  have h₃' : '\r' ∉ c₃ := by
    rw [lead?_eq_some_iff.1 h₁, (readLabel?_eq_some_iff.1 h₂).2.2, lead?_eq_some_iff.1 h₃] at h
    simp only [List.mem_append, not_or] at h
    exact h.2.2.2
  rw [Function.comp_apply, readLineBreak?_withReturns h₃']
  simp only [Option.bind_map, Option.map_bind, Function.comp_def, readBlanks?_withReturns,
    hcomment, readTestName?_withReturns, wordEnds_withReturns, Prod.map, id, apply_ite,
    Option.map_some, Option.map_none]

/-- **The blocks of a text stay the same** when it gets carriage returns, up to those that their
labels get. The induction is on the scan, which passes over a line end sign by sign. -/
theorem coveringBlocks_withReturns (cs : List Char) (h : '\r' ∉ cs) :
    coveringBlocks (withReturns cs) = (coveringBlocks cs).map (Prod.map withReturns id) := by
  fun_induction coveringBlocks cs with
  | case1 cs block rest hread ih =>
    have hread' : coveringBlock? (withReturns cs) =
        some (block.map withReturns id, withReturns rest) := by
      rw [coveringBlock?_withReturns h, hread]
      rfl
    have hrest : '\r' ∉ rest := fun hmem =>
      h ((coveringBlock?_eq_some_iff.1 hread).suffix.subset hmem)
    rw [coveringBlocks_of_some hread', ih hrest, List.map_cons]
  | case2 => rw [withReturns_nil, coveringBlocks_nil, List.map_nil]
  | case3 c cs hread ih =>
    simp only [List.mem_cons, not_or] at h
    by_cases hc : c = '\n'
    · subst hc
      rw [withReturns_newline_cons, coveringBlocks_cons_of_ne (by decide),
        coveringBlocks_cons_of_ne (by decide), ih h.2]
    · have hread' : coveringBlock? (c :: withReturns cs) = none := by
        rw [← withReturns_cons hc, coveringBlock?_withReturns (by simpa using h), hread]
        rfl
      rw [withReturns_cons hc, coveringBlocks_cons_of_none hread', ih h.2]

end SuiteAudit
