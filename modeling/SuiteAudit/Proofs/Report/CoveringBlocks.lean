import SuiteAudit.Proofs.Report.Outline
import SuiteAudit.Proofs.Suite.BlockScan
import SuiteAudit.Suite.Scan
/-!
# Report — the blocks behind a covered test

A covered test is covered by a block that the scan took from some comparison file
(`exists_block_of_covered`). This file asks two things of these blocks that the scan itself
does not: that a block stands on two consecutive lines, and that it opens with a call of
`test` and not of a longer name. Both hold of most sources and not of all. A label and the
gap behind the call may cross lines, so that a block stands on two lines exactly if it has
one line feed in it (`readsTwoLines_iff`). And nothing is asked of what stands in front of a
call, so that a block of a longer name is taken like any other, unless the name of the
block before it runs into it (`countsCalls_iff`).
-/

namespace SuiteAudit

open Text

variable {files : List SuiteFile} {file : SuiteFile} {source : String} {cs : List Char}
variable {b : PlacedBlock} {t : CoveringTest}
variable {ignored : IgnoreSet} {reference : List ReferenceFile} {report : FileReport}
variable {line : TestLine} {place : Coverage} {palette : Palette} {l : ReportLine}

namespace PlacedBlock

/-! ## Blocks that are taken -/

/-- **A block is taken from a source** when it is one of those of the scan. -/
def TakenFrom (block : PlacedBlock) (source : String) : Prop :=
  ∃ blocks, LeftToRight source.toList 0 blocks ∧ block ∈ blocks

theorem TakenFrom.fitsIn (h : b.TakenFrom source) : b.FitsIn source.toList := by
  obtain ⟨blocks, hscan, hb⟩ := h
  exact (hscan.fitsIn_of_mem hb).1

/-- The covering tests of a source are those of the blocks that are taken from it. -/
theorem mem_coveringTests_iff :
    t ∈ coveringTests source ↔ ∃ b : PlacedBlock, b.TakenFrom source ∧ b.toTest = t := by
  obtain ⟨blocks, hscan, hblocks⟩ := exists_leftToRight (List.drop_zero (l := source.toList))
  rw [coveringTests, hblocks, List.map_map, List.mem_map]
  constructor
  · rintro ⟨b, hb, rfl⟩
    exact ⟨b, ⟨blocks, hscan, hb⟩, rfl⟩
  · rintro ⟨b, ⟨blocks', hscan', hb⟩, rfl⟩
    obtain rfl := hscan.unique hscan'
    exact ⟨b, hb, rfl⟩

/-- A block is no shorter than its call. -/
theorem FitsIn.start_add_le_stop (h : b.FitsIn cs) : b.start + 6 ≤ b.stop := by
  obtain ⟨hstop, -, -, -, brk, gap, -, -, hform⟩ := h
  have hlen := congrArg List.length hform
  have hcall : "test('".toList.length = 6 := rfl
  simp only [List.length_append, List.length_drop, hcall] at hlen
  omega

/-- **A fitting block is not taken exactly if one that is taken runs into it.** -/
theorem not_takenFrom_iff (hb : b.FitsIn source.toList) :
    ¬ b.TakenFrom source ↔ ∃ a : PlacedBlock, a.TakenFrom source ∧ a.RunsInto b := by
  obtain ⟨blocks, hscan, -⟩ := exists_leftToRight (List.drop_zero (l := source.toList))
  constructor
  · intro hnot
    obtain ⟨a, ⟨before, after, rfl, -⟩, hruns⟩ :=
      (hscan.not_mem_iff hb (Nat.zero_le _)).1 fun hmem => hnot ⟨blocks, hscan, hmem⟩
    exact ⟨a, ⟨_, hscan, by simp⟩, hruns⟩
  · rintro ⟨a, ⟨blocks, hscan, ha⟩, hruns⟩ ⟨blocks', hscan', hb'⟩
    obtain rfl := hscan.unique hscan'
    have hlen := (hscan.fitsIn_of_mem ha).1.start_add_le_stop
    have hstart := hruns.1
    obtain ⟨before, after, rfl⟩ := List.append_of_mem ha
    -- the blocks behind `a` begin behind its end
    have hafter := (List.pairwise_append.1 hscan.pairwise).2.1
    have hbefore : JustBefore (before ++ a :: after) a b.start := by
      refine ⟨before, after, rfl, by omega, fun c hc => ?_⟩
      have := List.rel_of_pairwise_cons hafter hc
      omega
    exact (hscan.not_mem_iff hb (Nat.zero_le _)).2 ⟨a, hbefore, hruns⟩ hb'

/-- A fitting block at the front of a source is taken: there is no room for one to run into it. -/
theorem FitsIn.takenFrom (hb : b.FitsIn source.toList) (hstart : b.start < 2) :
    b.TakenFrom source := by
  by_contra hnot
  obtain ⟨a, ha, hruns⟩ := (not_takenFrom_iff hb).1 hnot
  have hlen := ha.fitsIn.start_add_le_stop
  have := hruns.1
  omega

end PlacedBlock

/-- The tests that a block covers are named by the suite. -/
theorem names_of_takenFrom (hfile : file ∈ files) (hb : b.TakenFrom file.source) :
    Names (files.map SuiteFile.toComparison) b.toTest.covers :=
  ⟨file.toComparison, List.mem_map_of_mem hfile, b.toTest,
    PlacedBlock.mem_coveringTests_iff.2 ⟨b, hb, rfl⟩, rfl⟩

/-- **A covered test is covered by a block** that is taken from some file of the suite: the block
names the test, and the report names the file and the label of the block. -/
theorem exists_block_of_covered
    (hreport : report ∈ evaluate ignored reference (files.map SuiteFile.toComparison))
    (hline : line ∈ report.tests) (hplace : line.outcome = .covered place) :
    ∃ file ∈ files, ∃ b : PlacedBlock, b.TakenFrom file.source ∧ b.toTest.covers = line.test ∧
      place = ⟨file.name, b.toTest.label⟩ := by
  obtain ⟨_, -, rfl⟩ := List.mem_map.1 hreport
  obtain ⟨test, -, rfl⟩ := List.mem_map.1 hline
  obtain ⟨_, hmem, t, ht, hcovers, hplace⟩ := (outcomeOf_eq_covered_iff.1 hplace).2.exists_mem
  obtain ⟨file, hfile, rfl⟩ := List.mem_map.1 hmem
  obtain ⟨b, hb, rfl⟩ := PlacedBlock.mem_coveringTests_iff.1 ht
  exact ⟨file, hfile, b, hb, hcovers, hplace⟩

/-! ## Blocks on two lines -/

theorem LineBreak.count_newline {brk : List Char} (h : LineBreak brk) : brk.count '\n' = 1 := by
  cases h <;> rfl

namespace PlacedBlock

/-- The text of a block in its source. -/
def extent (block : PlacedBlock) (cs : List Char) : List Char :=
  (cs.drop block.start).take (block.stop - block.start)

/-- **A block stands on two consecutive lines**: its call and its label stand on one line, which
ends behind the call, and the comment on the next one, with blanks of that line in front of it. -/
def OnTwoLines (block : PlacedBlock) (cs : List Char) : Prop :=
  ∃ brk indent, LineBreak brk ∧ (∀ c ∈ indent, isBlank c = true) ∧ '\n' ∉ block.label ∧
    '\n' ∉ indent ∧ block.extent cs = "test('".toList ++ block.label ++ "', () => \x7b".toList ++
      brk ++ indent ++ "// ".toList ++ block.name

/-- The text of a fitting block has the form of a block. -/
theorem FitsIn.extent_eq (h : b.FitsIn cs) :
    ∃ brk gap, LineBreak brk ∧ IsRun isBlank gap ∧ b.extent cs = "test('".toList ++ b.label ++
      "', () => \x7b".toList ++ brk ++ gap ++ "// ".toList ++ b.name := by
  have hlt := h.start_lt_stop
  obtain ⟨hstop, -, -, -, brk, gap, hbrk, hgap, hform⟩ := h
  refine ⟨brk, gap, hbrk, hgap, ?_⟩
  have hlen := congrArg List.length hform
  rw [List.length_append, List.length_drop, List.length_drop] at hlen
  rw [extent, hform, List.take_left' (by omega)]

/-- The line feeds of a block are those of its label, of its line break and of its gap. -/
theorem count_newline_form {brk : List Char} (hname : IsTestName b.name) (hbrk : LineBreak brk)
    (gap : List Char) :
    ("test('".toList ++ b.label ++ "', () => \x7b".toList ++ brk ++ gap ++ "// ".toList ++
      b.name).count '\n' = b.label.count '\n' + 1 + gap.count '\n' := by
  have hcall : "test('".toList.count '\n' = 0 := by decide
  have hclose : "', () => \x7b".toList.count '\n' = 0 := by decide
  have hcomment : "// ".toList.count '\n' = 0 := by decide
  have hname0 : b.name.count '\n' = 0 :=
    List.count_eq_zero.2 (not_mem_run (isWord_of_mem_testName hname) (by decide))
  simp only [List.count_append, hcall, hclose, hcomment, hname0, hbrk.count_newline]
  omega

/-- **A block stands on two lines exactly if it has one line feed in it.** -/
theorem onTwoLines_iff (h : b.FitsIn cs) : b.OnTwoLines cs ↔ (b.extent cs).count '\n' = 1 := by
  have hname : IsTestName b.name := h.2.2.1
  constructor
  · rintro ⟨brk, indent, hbrk, -, hlabel, hindent, hextent⟩
    rw [hextent, count_newline_form hname hbrk, List.count_eq_zero.2 hlabel,
      List.count_eq_zero.2 hindent]
  · intro hcount
    obtain ⟨brk, gap, hbrk, hgap, hextent⟩ := h.extent_eq
    rw [hextent, count_newline_form hname hbrk] at hcount
    exact ⟨brk, gap, hbrk, hgap.2, List.count_eq_zero.1 (by omega), List.count_eq_zero.1 (by omega),
      hextent⟩

end PlacedBlock

/-- The line of a place has the line feeds of the file and the label that it names, and the one that
ends it. -/
theorem count_newline_place (color : Color) (place : Coverage) :
    (ReportLine.written palette ⟨.place, color, place.text⟩).toList.count '\n' =
      place.file.toList.count '\n' + place.label.toList.count '\n' + 1 := by
  have hlead : " |  |  ".toList.count '\n' = 0 := by decide
  have hopen : ":'".toList.count '\n' = 0 := by decide
  have hclose : "'".toList.count '\n' = 0 := by decide
  simp only [ReportLine.count_newline_written, Coverage.text, String.toList_append,
    List.count_append, hlead, hopen, hclose]
  omega

/-- The line of a place in a report names the place of a covered test. -/
theorem exists_covered_of_place {reports : List FileReport} (hl : l ∈ reportLines reports)
    (hrole : l.role = .place) : ∃ report ∈ reports, ∃ line ∈ report.tests, ∃ place,
      line.outcome = .covered place ∧ l = ⟨.place, .green, place.text⟩ := by
  obtain ⟨report, hreport, rfl | ⟨⟨test, outcome⟩, hline, hmem⟩⟩ := mem_reportLines_iff.1 hl
  · cases hrole
  · cases outcome with
    | ignored =>
      obtain rfl := List.mem_singleton.1 hmem
      cases hrole
    | uncovered =>
      obtain rfl := List.mem_singleton.1 hmem
      cases hrole
    | covered place =>
      rcases List.mem_pair.1 hmem with rfl | rfl
      · cases hrole
      · exact ⟨report, hreport, _, hline, place, rfl, rfl⟩

/-- The line of a place in a report has the line feeds of a file of the suite and of the label of a
block that is taken from it. -/
theorem exists_block_of_place (palette : Palette)
    (hl : l ∈ reportLines (evaluate ignored reference (files.map SuiteFile.toComparison)))
    (hrole : l.role = .place) : ∃ file ∈ files, ∃ b : PlacedBlock, b.TakenFrom file.source ∧
      (ReportLine.written palette l).toList.count '\n' =
        file.name.toList.count '\n' + b.label.count '\n' + 1 := by
  obtain ⟨report, hreport, line, hline, place, hcovered, rfl⟩ := exists_covered_of_place hl hrole
  obtain ⟨file, hfile, b, hb, -, rfl⟩ := exists_block_of_covered hreport hline hcovered
  refine ⟨file, hfile, b, hb, ?_⟩
  rw [count_newline_place, PlacedBlock.toTest, String.toList_ofList]

/-- **A suite is read two lines at a time**: every block that is taken stands on two consecutive
lines, so that where no file has a line feed in its name, every line of a report that names a place
is a single one. -/
structure ReadsTwoLines (files : List SuiteFile) : Prop where
  block : ∀ file ∈ files, ∀ b : PlacedBlock, b.TakenFrom file.source →
    b.OnTwoLines file.source.toList
  place : (∀ file ∈ files, '\n' ∉ file.name.toList) → ∀ ignored reference palette,
    ∀ l ∈ reportLines (evaluate ignored reference (files.map SuiteFile.toComparison)),
      l.role = .place → (ReportLine.written palette l).toList.count '\n' = 1

/-- **A suite is read two lines at a time exactly if each of its blocks has one line feed in it.** A
block with more of them is taken all the same, and those of its label break the line of the place
that names it. -/
theorem readsTwoLines_iff (files : List SuiteFile) :
    (ReadsTwoLines files ↔ ∀ file ∈ files, ∀ b : PlacedBlock, b.TakenFrom file.source →
      (b.extent file.source.toList).count '\n' = 1) ∧
    ∀ ignored reference palette,
      ∀ l ∈ reportLines (evaluate ignored reference (files.map SuiteFile.toComparison)),
        l.role = .place → ∃ file ∈ files, ∃ b : PlacedBlock, b.TakenFrom file.source ∧
          (ReportLine.written palette l).toList.count '\n' =
            file.name.toList.count '\n' + b.label.count '\n' + 1 := by
  refine ⟨⟨fun h file hfile b hb => ?_, fun h => ⟨fun file hfile b hb => ?_, ?_⟩⟩,
    fun ignored reference palette l hl hrole => exists_block_of_place palette hl hrole⟩
  · exact (PlacedBlock.onTwoLines_iff hb.fitsIn).1 (h.block file hfile b hb)
  · exact (PlacedBlock.onTwoLines_iff hb.fitsIn).2 (h file hfile b hb)
  · intro hnames ignored reference palette l hl hrole
    obtain ⟨file, hfile, b, hb, hcount⟩ := exists_block_of_place palette hl hrole
    obtain ⟨-, -, -, -, hlabel, -⟩ := (PlacedBlock.onTwoLines_iff hb.fitsIn).2 (h file hfile b hb)
    rw [hcount, List.count_eq_zero.2 (hnames file hfile), List.count_eq_zero.2 hlabel]

/-! ### Blocks on three lines -/

/-- A label on two lines. -/
def brokenLabel : SuiteFile :=
  ⟨"a.test.ts", "test('one\ntwo', () => \x7b\n  // test_x\n"⟩

/-- A blank line in front of a comment. -/
def blankLine : SuiteFile :=
  ⟨"a.test.ts", "test('one', () => \x7b\n\n  // test_x\n"⟩

/-- The block of either is taken, and has two line feeds in it. -/
theorem takes_threeLines :
    ¬ ReadsTwoLines [brokenLabel] ∧ ¬ ReadsTwoLines [blankLine] ∧
      coveringTests brokenLabel.source = [⟨"one\ntwo", "test_x"⟩] ∧
      coveringTests blankLine.source = [⟨"one", "test_x"⟩] := by
  have hnot : ∀ (file : SuiteFile) (b : PlacedBlock), b.FitsIn file.source.toList → b.start < 2 →
      (b.extent file.source.toList).count '\n' ≠ 1 → ¬ ReadsTwoLines [file] := by
    intro file b hb hstart hcount hreads
    have htwo := hreads.block file (by simp) b (hb.takenFrom hstart)
    exact hcount ((PlacedBlock.onTwoLines_iff hb).1 htwo)
  have hlabel : PlacedBlock.FitsIn ⟨0, 35, "one\ntwo".toList, "test_x".toList⟩
      brokenLabel.source.toList :=
    ⟨by decide, coveringBlock?_eq_some_iff.1 (by decide +kernel)⟩
  have hblank : PlacedBlock.FitsIn ⟨0, 32, "one".toList, "test_x".toList⟩
      blankLine.source.toList :=
    ⟨by decide, coveringBlock?_eq_some_iff.1 (by decide +kernel)⟩
  exact ⟨hnot _ _ hlabel (by decide) (by decide), hnot _ _ hblank (by decide) (by decide),
    by decide +kernel, by decide +kernel⟩

/-! ## Blocks of a longer name -/

/-- **A block opens with a call of its own**: no word goes on into its `test`. -/
def PlacedBlock.OpensWord (block : PlacedBlock) (cs : List Char) : Prop :=
  ∀ c ∈ (cs.take block.start).getLast?, isWord c = false

/-- **Only calls of `test` count in a suite**: every block that is taken opens with a call of its
own, so that every covered test of a report is covered by such a block. -/
structure CountsCalls (files : List SuiteFile) : Prop where
  block : ∀ file ∈ files, ∀ b : PlacedBlock, b.TakenFrom file.source →
    b.OpensWord file.source.toList
  covered : ∀ ignored reference,
    ∀ report ∈ evaluate ignored reference (files.map SuiteFile.toComparison),
      ∀ line ∈ report.tests, ∀ place, line.outcome = .covered place →
        ∃ file ∈ files, ∃ b : PlacedBlock, b.TakenFrom file.source ∧
          b.OpensWord file.source.toList ∧ b.toTest.covers = line.test ∧
          place = ⟨file.name, b.toTest.label⟩

/-- **Only calls of `test` count exactly where each block of a longer name is run into by a block
before it.** Whatever stands in front of the call of a block that is taken, the test that it names
is not uncovered. -/
theorem countsCalls_iff (files : List SuiteFile) :
    (CountsCalls files ↔ ∀ file ∈ files, ∀ b : PlacedBlock, b.FitsIn file.source.toList →
      ¬ b.OpensWord file.source.toList →
        ∃ a : PlacedBlock, a.TakenFrom file.source ∧ a.RunsInto b) ∧
    ∀ file ∈ files, ∀ b : PlacedBlock, b.TakenFrom file.source → ∀ ignored,
      outcomeOf ignored (CoverageIndex.ofFiles (files.map SuiteFile.toComparison))
        b.toTest.covers ≠ .uncovered := by
  refine ⟨⟨fun h file hfile b hb hlonger => ?_, fun h => ?_⟩,
    fun file hfile b hb ignored hout => ?_⟩
  · rw [← PlacedBlock.not_takenFrom_iff hb]
    exact fun htaken => hlonger (h.block file hfile b htaken)
  · have hblock : ∀ file ∈ files, ∀ b : PlacedBlock, b.TakenFrom file.source →
        b.OpensWord file.source.toList := by
      intro file hfile b hb
      by_contra hlonger
      exact (PlacedBlock.not_takenFrom_iff hb.fitsIn).2 (h file hfile b hb.fitsIn hlonger) hb
    refine ⟨hblock, fun ignored reference report hreport line hline place hcovered => ?_⟩
    obtain ⟨file, hfile, b, hb, hcovers, hplace⟩ := exists_block_of_covered hreport hline hcovered
    exact ⟨file, hfile, b, hb, hblock file hfile b hb, hcovers, hplace⟩
  · exact noCover_iff.1 (outcomeOf_eq_uncovered_iff.1 hout).2 (names_of_takenFrom hfile hb)

/-! ### A test that is skipped -/

/-- A test that is skipped by a call of a longer name. -/
def skippedTest : SuiteFile :=
  ⟨"a.test.ts", "xtest('one', () => \x7b\n  // test_x\n"⟩

/-- It counts, and covers the test that it names. -/
theorem counts_skippedTest :
    ¬ CountsCalls [skippedTest] ∧
      evaluate .builtin [⟨"test_a.py", ["test_x"]⟩] [skippedTest.toComparison] =
        [⟨"test_a.py", .covered, [⟨"test_x", .covered ⟨"a.test.ts", "one"⟩⟩]⟩] := by
  have hfits : PlacedBlock.FitsIn ⟨1, 32, "one".toList, "test_x".toList⟩
      skippedTest.source.toList :=
    ⟨by decide, coveringBlock?_eq_some_iff.1 (by decide +kernel)⟩
  have hlonger : ¬ PlacedBlock.OpensWord ⟨1, 32, "one".toList, "test_x".toList⟩
      skippedTest.source.toList := by
    intro hopens
    exact absurd (hopens 'x' rfl) (by decide)
  have hcover : FirstCover [skippedTest.toComparison] "test_x" ⟨"a.test.ts", "one"⟩ := by
    refine ⟨[], _, [], rfl, by simp [NoCover], [], ⟨"one", "test_x"⟩, [], ?_, by simp, rfl, rfl⟩
    decide +kernel
  have hignored : "test_x" ∉ IgnoreSet.builtin.names := by
    rw [IgnoreSet.builtin, IgnoreSet.mem_names_ofList]
    decide
  have hcovered : outcomeOf .builtin (CoverageIndex.ofFiles [skippedTest.toComparison]) "test_x" =
      .covered ⟨"a.test.ts", "one"⟩ := outcomeOf_eq_covered_iff.2 ⟨hignored, hcover⟩
  refine ⟨fun hcounts => ?_, ?_⟩
  · exact hlonger (hcounts.block skippedTest (by simp) _ (hfits.takenFrom (by decide)))
  · simp only [evaluate, evaluateFile, testLines, List.map_cons, List.map_nil, hcovered]
    rfl

end SuiteAudit
