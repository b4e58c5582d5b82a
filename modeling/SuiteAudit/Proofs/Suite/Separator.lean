import SuiteAudit.Proofs.Suite.BlockScan
/-!
# Suites — blocks on both sides of a separator

A block is made of label characters and of the signs of its call and its comment. Any
other character, a closing brace for one, is in no block, so that every block of a text
lies in front of it or behind it, and the end of a name in front of it is the end of a
word all the same. Reading the text is then reading what is in front and what is behind
(`coveringTests_separated`).
-/

namespace SuiteAudit

open Text

variable {cs more label name rest brk gap : List Char} {c : Char}

/-- The signs of a call and of its comment. -/
def blockSigns : List Char :=
  ['\'', '(', ')', ',', '=', '>', '\x7b', '/']

/-- The characters that blocks are made of. -/
def isBlockChar (c : Char) : Bool :=
  isLabelChar c || blockSigns.contains c

theorem isBlockChar_of_isWord (h : isWord c = true) : isBlockChar c = true := by
  rw [isBlockChar, isLabelChar, h, Bool.true_or, Bool.true_or]

theorem isBlockChar_of_isBlank (h : isBlank c = true) : isBlockChar c = true := by
  rw [isBlockChar, isLabelChar, h, Bool.or_true, Bool.true_or]

/-- What goes on with a character that is in no block does not go on with a word. -/
theorem isWord_eq_false (hc : isBlockChar c = false) : isWord c = false := by
  by_contra hword
  rw [isBlockChar_of_isWord (by simpa using hword)] at hc
  cases hc

/-- Every character of the form of a block is one of those that blocks are made of. -/
theorem not_mem_form (hc : isBlockChar c = false) (hlabel : IsRun isLabelChar label)
    (hname : IsTestName name) (hbrk : LineBreak brk) (hgap : IsRun isBlank gap) :
    c ∉ "test('".toList ++ label ++ "', () => \x7b".toList ++ brk ++ gap ++ "// ".toList ++
      name := by
  have hcall : ∀ d ∈ "test('".toList, isBlockChar d = true := List.all_eq_true.1 rfl
  have hclose : ∀ d ∈ "', () => \x7b".toList, isBlockChar d = true := List.all_eq_true.1 rfl
  have hcomment : ∀ d ∈ "// ".toList, isBlockChar d = true := List.all_eq_true.1 rfl
  have hlabel' : ∀ d ∈ label, isBlockChar d = true := fun d hd => by
    rw [isBlockChar, hlabel.2 d hd, Bool.true_or]
  have hbrk' : ∀ d ∈ brk, isBlockChar d = true := by
    cases hbrk <;> exact List.all_eq_true.1 rfl
  have hgap' : ∀ d ∈ gap, isBlockChar d = true := fun d hd => isBlockChar_of_isBlank (hgap.2 d hd)
  have hname' : ∀ d ∈ name, isBlockChar d = true := fun d hd =>
    isBlockChar_of_isWord (isWord_of_mem_testName hname d hd)
  simp only [List.mem_append, not_or]
  exact ⟨⟨⟨⟨⟨⟨not_mem_run hcall hc, not_mem_run hlabel' hc⟩, not_mem_run hclose hc⟩,
    not_mem_run hbrk' hc⟩, not_mem_run hgap' hc⟩, not_mem_run hcomment hc⟩, not_mem_run hname' hc⟩

/-- A text stops a word in front of a separator exactly where it does at its end. -/
theorem stopsAt_append_separator (hc : isBlockChar c = false) :
    StopsAt isWord (cs ++ c :: more) ↔ StopsAt isWord cs := by
  cases cs with
  | nil => simp [isWord_eq_false hc]
  | cons d cs => simp

/-- **A block in front of a separator** is one of what is in front of it, whatever is behind. -/
theorem blockFits_append_separator (hc : isBlockChar c = false) :
    BlockFits (cs ++ c :: more) label name rest ↔
      ∃ tail, BlockFits cs label name tail ∧ rest = tail ++ c :: more := by
  constructor
  · rintro ⟨hlabel, hname, hrest, brk, gap, hbrk, hgap, hform⟩
    obtain ⟨tail, rfl, rfl⟩ :=
      exists_eq_append_of_not_mem (not_mem_form hc hlabel hname hbrk hgap) hform
    exact ⟨tail, ⟨hlabel, hname, (stopsAt_append_separator hc).1 hrest, brk, gap, hbrk, hgap, rfl⟩,
      rfl⟩
  · rintro ⟨tail, ⟨hlabel, hname, htail, brk, gap, hbrk, hgap, rfl⟩, rfl⟩
    exact ⟨hlabel, hname, (stopsAt_append_separator hc).2 htail, brk, gap, hbrk, hgap,
      by rw [List.append_assoc]⟩

/-- And so it is read. -/
theorem coveringBlock?_append_separator (hc : isBlockChar c = false) :
    coveringBlock? (cs ++ c :: more) =
      (coveringBlock? cs).map fun (block, tail) => (block, tail ++ c :: more) := by
  cases hread : coveringBlock? cs with
  | none =>
    refine coveringBlock?_eq_none_iff.2 fun label name rest hfits => ?_
    obtain ⟨tail, hfits, -⟩ := (blockFits_append_separator hc).1 hfits
    exact coveringBlock?_eq_none_iff.1 hread label name tail hfits
  | some read =>
    obtain ⟨⟨label, name⟩, tail⟩ := read
    exact coveringBlock?_eq_some_iff.2
      ((blockFits_append_separator hc).2 ⟨tail, coveringBlock?_eq_some_iff.1 hread, rfl⟩)

/-- **The blocks of a text with a separator** are those in front of it and those behind it. The
induction is on the reader of what is in front: what it takes there it takes here. -/
theorem coveringBlocks_append_separator (hc : isBlockChar c = false) (cs more : List Char) :
    coveringBlocks (cs ++ c :: more) = coveringBlocks cs ++ coveringBlocks more := by
  fun_induction coveringBlocks cs with
  | case1 cs block tail hread ih =>
    have hread' : coveringBlock? (cs ++ c :: more) = some (block, tail ++ c :: more) := by
      rw [coveringBlock?_append_separator hc, hread, Option.map_some]
    rw [coveringBlocks_of_some hread', ih, List.cons_append]
  | case2 hread =>
    have hread' : coveringBlock? (c :: more) = none := by
      rw [← List.nil_append (c :: more), coveringBlock?_append_separator hc, hread, Option.map_none]
    rw [List.nil_append, coveringBlocks_cons_of_none hread', List.nil_append]
  | case3 d cs hread ih =>
    have hread' : coveringBlock? (d :: (cs ++ c :: more)) = none := by
      rw [← List.cons_append, coveringBlock?_append_separator hc, hread, Option.map_none]
    rw [List.cons_append, coveringBlocks_cons_of_none hread', ih]

/-- **What is in front of a separator and what is behind it are read apart.** A character that is no
word character, no blank and no sign of a block parts a source into two, and the covering tests
of the source are those of the one and then those of the other. -/
theorem coveringTests_separated (front back : String) (c : Char) (hword : isWord c = false)
    (hblank : isBlank c = false) (hsign : c ∉ blockSigns) :
    coveringTests (front ++ c.toString ++ back) = coveringTests front ++ coveringTests back := by
  have hc : isBlockChar c = false := by
    rw [isBlockChar, isLabelChar, hword, hblank, List.contains_eq_mem, decide_eq_false hsign]
    rfl
  have htext : (front ++ c.toString ++ back).toList = front.toList ++ c :: back.toList := by
    simp
  rw [coveringTests, htext, coveringBlocks_append_separator hc, List.map_append]
  rfl

/-- A name that a brace ends, and a call behind the brace. -/
theorem coveringTests_separated_brace :
    isWord '\x7d' = false ∧ isBlank '\x7d' = false ∧ '\x7d' ∉ blockSigns ∧
      coveringTests ("test('a', () => \x7b\n // test_test" ++ '\x7d'.toString ++
        "('b', () => \x7b\n // test_b\ntest('c', () => \x7b\n // test_c") =
      [⟨"a", "test_test"⟩, ⟨"c", "test_c"⟩] := by
  have hword : isWord '\x7d' = false := by decide
  have hblank : isBlank '\x7d' = false := by decide
  have hsign : '\x7d' ∉ blockSigns := by decide
  refine ⟨hword, hblank, hsign, ?_⟩
  rw [coveringTests_separated _ _ _ hword hblank hsign]
  decide +kernel

end SuiteAudit
