import SuiteAudit.Proofs.Suite.Declaration
import SuiteAudit.Proofs.Suite.Separator
import SuiteAudit.Report
import SuiteAudit.Suite.Scan
/-!
# Suites — files in the usual layout

A reference file is usually a class with a method for each test, and a comparison file a list
of calls with a comment each. `referenceSource` and `comparisonSource` write files that way.
Such a file reads back as what was written, no test more and none less, exactly when its tests
are test names and its labels are runs of label characters; so an audit of written suites is
the audit of what they were written from (`usualLayout_readBack`).
-/

namespace SuiteAudit

open Text

variable {name : List Char} {lines names : List (List Char)}
variable {test : CoveringTest} {tests : List CoveringTest}

/-- A method for a test. -/
def methodText (test : String) : String :=
  "    def " ++ test ++ "(self):\n        pass\n\n"

/-- **A reference source in the usual layout**: a class with a method for each test. -/
def referenceSource (tests : List String) : String :=
  "class TestSuite:\n" ++ String.join (tests.map methodText)

/-- What stands in a call behind the name that it covers. -/
def callEnd : String :=
  "\n  expect(true).toBe(true);\n\x7d);\n\n"

/-- A call for a covering test, with a comment that names what the test covers. -/
def callText (test : CoveringTest) : String :=
  "test('" ++ test.label ++ "', () => \x7b\n  // " ++ test.covers ++ callEnd

/-- **A comparison source in the usual layout**: a call for each covering test. -/
def comparisonSource (tests : List CoveringTest) : String :=
  String.join (tests.map callText)

/-- A reference file in the usual layout. -/
def ReferenceFile.written (file : ReferenceFile) : SuiteFile :=
  ⟨file.name, referenceSource file.tests⟩

/-- A comparison file in the usual layout. -/
def ComparisonFile.written (file : ComparisonFile) : SuiteFile :=
  ⟨file.name, comparisonSource file.tests⟩

/-- **A reference file that can be written**: its tests are test names. -/
def ReferenceFile.Writable (file : ReferenceFile) : Prop :=
  ∀ test ∈ file.tests, IsTestName test.toList

/-- **A covering test that can be written**: its label is made of label characters, and what it
covers is a test name. -/
structure CoveringTest.Writable (test : CoveringTest) : Prop where
  label : IsRun isLabelChar test.label.toList
  covers : IsTestName test.covers.toList

instance (test : CoveringTest) : Decidable test.Writable :=
  decidable_of_iff (IsRun isLabelChar test.label.toList ∧ IsTestName test.covers.toList)
    ⟨fun h => ⟨h.1, h.2⟩, fun h => ⟨h.label, h.covers⟩⟩

/-- A comparison file that can be written. -/
def ComparisonFile.Writable (file : ComparisonFile) : Prop :=
  ∀ test ∈ file.tests, test.Writable

/-! ## Methods

A reference source is a list of lines, of which the heads of the methods declare their names and
no other declares any. -/

/-- The text of lines, with a line feed behind each. -/
def textOfLines (lines : List (List Char)) : List Char :=
  lines.flatMap (· ++ ['\n'])

/-- Its lines are those it is made of, and an empty one behind the last line feed. -/
theorem splitOn_textOfLines (hlines : ∀ line ∈ lines, '\n' ∉ line) :
    (textOfLines lines).splitOn '\n' = lines ++ [[]] := by
  induction lines with
  | nil => rfl
  | cons line lines ih =>
    have htext : textOfLines (line :: lines) = line ++ '\n' :: textOfLines lines := by
      simp [textOfLines]
    rw [htext, List.splitOn_append_cons_self_of_not_mem (hlines line (by simp)),
      ih fun line hline => hlines line (by simp [hline]), List.cons_append]

/-- The lines of a method: its head, its body and an empty line. -/
def methodLines (name : List Char) : List (List Char) :=
  ["    def ".toList ++ name ++ "(self):".toList, "        pass".toList, []]

theorem newline_not_mem_methodLines (hname : IsTestName name) :
    ∀ line ∈ methodLines name, '\n' ∉ line := by
  have hnot : '\n' ∉ name := not_mem_run (isWord_of_mem_testName hname) (by decide)
  simp [methodLines, hnot]

/-- The head of a method declares its name. -/
theorem declarationLine_methodHead (hname : IsTestName name) :
    DeclarationLine ("    def ".toList ++ name ++ "(self):".toList) name := by
  have hindent : ∀ c ∈ "    ".toList, isIndent c = true := List.all_eq_true.1 rfl
  have hgap : IsRun isIndent [' '] := by decide
  refine ⟨"self):".toList, hname, "    ".toList, [], [' '], hindent, .none, hgap, ?_⟩
  simp

/-- **The lines of methods declare the names of the methods.** -/
theorem linesDeclare_methodLines (hnames : ∀ name ∈ names, IsTestName name) :
    LinesDeclare (names.flatMap methodLines) names := by
  induction names with
  | nil => exact .done
  | cons name names ih =>
    have hrest := ih fun name hname => hnames name (by simp [hname])
    have hbody : ∀ name, ¬ DeclarationLine "        pass".toList name :=
      declaration?_eq_none_iff.1 rfl
    have hempty : ∀ name, ¬ DeclarationLine [] name := declaration?_eq_none_iff.1 rfl
    exact .declares (declarationLine_methodHead (hnames name (by simp)))
      (.passes hbody (.passes hempty hrest))

theorem toList_methodText (test : String) :
    (methodText test).toList = textOfLines (methodLines test.toList) := by
  have hbody : "(self):\n        pass\n\n".toList =
      "(self):".toList ++ ['\n'] ++ "        pass".toList ++ ['\n'] ++ ['\n'] := by decide
  simp only [methodText, String.toList_append, hbody, textOfLines, methodLines, List.flatMap_cons,
    List.flatMap_nil, List.append_assoc, List.append_nil, List.nil_append]

theorem toList_referenceSource (tests : List String) :
    (referenceSource tests).toList =
      textOfLines ("class TestSuite:".toList ::
        (tests.map String.toList).flatMap methodLines) := by
  have hclass : "class TestSuite:\n".toList = "class TestSuite:".toList ++ ['\n'] := by decide
  have hmethods : (tests.flatMap fun test => (methodText test).toList) =
      textOfLines ((tests.map String.toList).flatMap methodLines) := by
    simp only [toList_methodText, textOfLines, List.flatMap_map, List.flatMap_assoc]
  calc (referenceSource tests).toList
      = ("class TestSuite:\n" ++ String.join (tests.map methodText)).toList := rfl
    _ = "class TestSuite:\n".toList ++ tests.flatMap fun test => (methodText test).toList := by
        simp only [String.toList_append, String.toList_join, List.flatMap_map]
    _ = "class TestSuite:".toList ++ ['\n'] ++
          textOfLines ((tests.map String.toList).flatMap methodLines) :=
        congrArg₂ (· ++ ·) hclass hmethods
    _ = textOfLines ("class TestSuite:".toList :: (tests.map String.toList).flatMap methodLines) :=
        rfl

/-- **A reference source reads back as its tests exactly when they are test names.** -/
theorem declaredTests_referenceSource_iff (tests : List String) :
    declaredTests (referenceSource tests) = tests ↔ ∀ test ∈ tests, IsTestName test.toList := by
  constructor
  · intro h test htest
    rw [← h] at htest
    exact isTestName_of_mem_declaredTests htest
  · intro hnames
    have hnames' : ∀ name ∈ tests.map String.toList, IsTestName name := by simpa using hnames
    have hlines : ∀ line ∈ "class TestSuite:".toList ::
        (tests.map String.toList).flatMap methodLines, '\n' ∉ line := by
      intro line hline
      rcases List.mem_cons.1 hline with rfl | hline
      · decide
      · obtain ⟨name, hname, hline⟩ := List.mem_flatMap.1 hline
        exact newline_not_mem_methodLines (hnames' name hname) line hline
    rw [declaredTests_eq_iff, toList_referenceSource, splitOn_textOfLines hlines, List.cons_append]
    have hclass : ∀ name, ¬ DeclarationLine "class TestSuite:".toList name :=
      declaration?_eq_none_iff.1 rfl
    have hend : LinesDeclare [[]] [] := .passes (declaration?_eq_none_iff.1 rfl) .done
    have hmethods := (linesDeclare_methodLines hnames').append hend
    rw [List.append_nil] at hmethods
    exact .passes hclass hmethods

/-! ## Calls

The block of a call ends with the name in its comment. What stands between the name and the next
call holds no quote, and its last sign, a semicolon, is in no block. -/

/-- Behind its name a call has no block, and it takes none from what follows. -/
theorem coveringBlocks_callEnd_append (rest : List Char) :
    coveringBlocks (callEnd.toList ++ rest) = coveringBlocks rest := by
  have hend : callEnd.toList =
      "\n  expect(true).toBe(true);\n\x7d)".toList ++ [';', '\n', '\n'] := by decide
  have hbody : coveringBlocks "\n  expect(true).toBe(true);\n\x7d)".toList = [] :=
    coveringBlocks_eq_nil (by decide)
  calc coveringBlocks (callEnd.toList ++ rest)
      = coveringBlocks ("\n  expect(true).toBe(true);\n\x7d)".toList ++
          ';' :: '\n' :: '\n' :: rest) := by
        simp only [hend, List.append_assoc]
        rfl
    _ = coveringBlocks ('\n' :: '\n' :: rest) := by
        rw [coveringBlocks_append_separator (by decide), hbody, List.nil_append]
    _ = coveringBlocks rest := by
        rw [coveringBlocks_cons_of_ne (by decide), coveringBlocks_cons_of_ne (by decide)]

/-- A call that can be written begins with a block of its label and its name. -/
theorem blockFits_callText (h : test.Writable) (rest : List Char) :
    BlockFits ((callText test).toList ++ rest) test.label.toList test.covers.toList
      (callEnd.toList ++ rest) := by
  have hopen : "', () => \x7b\n  // ".toList =
      "', () => \x7b".toList ++ ['\n'] ++ [' ', ' '] ++ "// ".toList := by decide
  have hgap : IsRun isBlank [' ', ' '] := by decide
  refine ⟨h.label, h.covers, stopsAt_cons.2 (by decide), ['\n'], [' ', ' '], .lineFeed, hgap, ?_⟩
  simp only [callText, String.toList_append, hopen, List.append_assoc]

/-- **A call is read as its label and its name**, whatever follows it. -/
theorem coveringBlocks_callText_append (h : test.Writable) (rest : List Char) :
    coveringBlocks ((callText test).toList ++ rest) =
      (test.label.toList, test.covers.toList) :: coveringBlocks rest := by
  rw [coveringBlocks_of_some (coveringBlock?_eq_some_iff.2 (blockFits_callText h rest)),
    coveringBlocks_callEnd_append]

/-- **Calls are read as their labels and names**, one by one. -/
theorem coveringBlocks_calls (h : ∀ test ∈ tests, test.Writable) :
    coveringBlocks (tests.flatMap fun test => (callText test).toList) =
      tests.map fun test => (test.label.toList, test.covers.toList) := by
  induction tests with
  | nil => exact coveringBlocks_nil
  | cons test tests ih =>
    have hrest := ih fun test hmem => h test (by simp [hmem])
    rw [List.flatMap_cons, coveringBlocks_callText_append (h test (by simp)), hrest, List.map_cons]

/-- **A comparison source reads back as its tests exactly when each of them can be written.** -/
theorem coveringTests_comparisonSource_iff (tests : List CoveringTest) :
    coveringTests (comparisonSource tests) = tests ↔ ∀ test ∈ tests, test.Writable := by
  constructor
  · intro h test htest
    rw [← h] at htest
    obtain ⟨hlabel, hcovers⟩ := isRun_label_of_mem_coveringTests htest
    exact ⟨hlabel, hcovers⟩
  · intro h
    rw [coveringTests, comparisonSource, String.toList_join, List.flatMap_map,
      coveringBlocks_calls h, List.map_map]
    simp [Function.comp_def]

/-! ## Files -/

theorem ReferenceFile.toReference_written_iff (file : ReferenceFile) :
    file.written.toReference = file ↔ file.Writable := by
  rw [Writable, ← declaredTests_referenceSource_iff]
  cases file
  simp [written, SuiteFile.toReference]

theorem ComparisonFile.toComparison_written_iff (file : ComparisonFile) :
    file.written.toComparison = file ↔ file.Writable := by
  rw [Writable, ← coveringTests_comparisonSource_iff]
  cases file
  simp [written, SuiteFile.toComparison]

/-- **Suites in the usual layout are audited as written.** A reference source reads back as the
tests that it was written from exactly when they are test names, a comparison source exactly when
its labels and names can be written; and two written suites of such files read back as they were,
so that their report is the report on the files they were written from. -/
theorem usualLayout_readBack :
    (∀ tests : List String, declaredTests (referenceSource tests) = tests ↔
      ∀ test ∈ tests, IsTestName test.toList) ∧
    (∀ tests : List CoveringTest, coveringTests (comparisonSource tests) = tests ↔
      ∀ test ∈ tests, test.Writable) ∧
    ∀ (reference : List ReferenceFile) (comparison : List ComparisonFile),
      (∀ file ∈ reference, file.Writable) → (∀ file ∈ comparison, file.Writable) →
      reference.map (fun file => file.written.toReference) = reference ∧
      comparison.map (fun file => file.written.toComparison) = comparison ∧
      ∀ ignored, evaluate ignored (reference.map fun file => file.written.toReference)
        (comparison.map fun file => file.written.toComparison) =
          evaluate ignored reference comparison := by
  refine ⟨declaredTests_referenceSource_iff, coveringTests_comparisonSource_iff,
    fun reference comparison href hcomp => ?_⟩
  have hreference : reference.map (fun file => file.written.toReference) = reference :=
    (List.map_congr_left fun file hfile => file.toReference_written_iff.2 (href file hfile)).trans
      (List.map_id' reference)
  have hcomparison : comparison.map (fun file => file.written.toComparison) = comparison :=
    (List.map_congr_left fun file hfile => file.toComparison_written_iff.2 (hcomp file hfile)).trans
      (List.map_id' comparison)
  exact ⟨hreference, hcomparison, fun ignored => by rw [hreference, hcomparison]⟩

/-! ### Names and labels that end like calls -/

/-- A reference file with a name that ends in `test` and is declared twice, and one of
underscores. -/
def edgeNames : ReferenceFile :=
  ⟨"test_a.py", ["test_test", "test__", "test_test"]⟩

/-- A comparison file with a label on two lines and one that is the word `test`. -/
def edgeLabels : ComparisonFile :=
  ⟨"a.test.ts", [⟨"été\ntest", "test_test"⟩, ⟨"test", "test_test"⟩]⟩

/-- The first call that names a test covers it, wherever it is declared. -/
theorem usualLayout_edges :
    (∀ file ∈ [edgeNames], file.Writable) ∧ (∀ file ∈ [edgeLabels], file.Writable) ∧
      evaluate (.ofList ["test__"]) [edgeNames.written.toReference]
          [edgeLabels.written.toComparison] =
        [⟨"test_a.py", .ignored, [⟨"test_test", .covered ⟨"a.test.ts", "été\ntest"⟩⟩,
          ⟨"test__", .ignored⟩, ⟨"test_test", .covered ⟨"a.test.ts", "été\ntest"⟩⟩]⟩] := by
  have hnames : ∀ file ∈ [edgeNames], file.Writable := by
    simp only [List.forall_mem_singleton, ReferenceFile.Writable]
    decide
  have hlabels : ∀ file ∈ [edgeLabels], file.Writable := by
    simp only [List.forall_mem_singleton, ComparisonFile.Writable]
    decide +kernel
  have hreport := (usualLayout_readBack.2.2 _ _ hnames hlabels).2.2 (.ofList ["test__"])
  have hfirst : firstCover? [edgeLabels] "test_test" = some ⟨"a.test.ts", "été\ntest"⟩ := rfl
  have hcovered : outcomeOf (.ofList ["test__"]) (CoverageIndex.ofFiles [edgeLabels]) "test_test" =
      .covered ⟨"a.test.ts", "été\ntest"⟩ := by
    simp [outcomeOf, CoverageIndex.lookup?_ofFiles, hfirst]
  have hignored : outcomeOf (.ofList ["test__"]) (CoverageIndex.ofFiles [edgeLabels]) "test__" =
      .ignored := by
    simp [outcomeOf]
  refine ⟨hnames, hlabels, hreport.trans ?_⟩
  simp only [evaluate, evaluateFile, testLines, edgeNames, List.map_cons, List.map_nil, hcovered,
    hignored]
  rfl

end SuiteAudit
