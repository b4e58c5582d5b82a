import SuiteAudit.Proofs.Report.Outline
import SuiteAudit.Proofs.Run.ExitCode
/-!
# Run — covering more and ignoring more

A report can only get better when more tests are named by the comparison suite and more
names are ignored: `NoWorse` says so of a line, and `evaluate_mono` of a whole report,
its totals and the end of a strict run. Nothing is asked of the comparison suites but
which tests they name. Where files are only added at the end, a covered test also keeps
its place (`KeepsPlace`), since the first place that covers it is still the first.
-/

namespace SuiteAudit

variable {ignored ignored' : IgnoreSet} {comparison comparison' : List ComparisonFile}
variable {reference : List ReferenceFile} {reports reports' : List FileReport}
variable {lines lines' : List TestLine} {test : String} {R : TestLine → TestLine → Prop}

/-! ## Reports on the same files -/

/-- **Two reports answer each other line by line**: they are on the same files in the same order,
and the lines of each file are related one by one. -/
def LineByLine (R : TestLine → TestLine → Prop) (reports reports' : List FileReport) : Prop :=
  List.Forall₂ (fun report report' => report.file = report'.file ∧
    List.Forall₂ R report.tests report'.tests) reports reports'

/-- A line is followed by one that is **no worse**: it is about the same test, it is not uncovered
unless the first one was, and an ignored test stays ignored. -/
structure NoWorse (line line' : TestLine) : Prop where
  test_eq : line.test = line'.test
  uncovered : line'.outcome = .uncovered → line.outcome = .uncovered
  ignored : line.outcome = .ignored → line'.outcome = .ignored

/-- A line is followed by one about the same test that keeps its place, if it has one. -/
structure KeepsPlace (line line' : TestLine) : Prop where
  test_eq : line.test = line'.test
  covered : ∀ place, line.outcome = .covered place → line'.outcome = .covered place

/-- Two reports on the same reference files answer each other as their outcomes do. -/
theorem lineByLine_evaluate
    (h : ∀ test, R ⟨test, outcomeOf ignored (CoverageIndex.ofFiles comparison) test⟩
      ⟨test, outcomeOf ignored' (CoverageIndex.ofFiles comparison') test⟩) :
    LineByLine R (evaluate ignored reference comparison)
      (evaluate ignored' reference comparison') := by
  rw [LineByLine, evaluate, evaluate, List.forall₂_map_left_iff, List.forall₂_map_right_iff,
    List.forall₂_same]
  intro file _
  refine ⟨rfl, ?_⟩
  rw [evaluateFile, evaluateFile, testLines, testLines, List.forall₂_map_left_iff,
    List.forall₂_map_right_iff, List.forall₂_same]
  exact fun test _ => h test

/-- And so do their lines together. -/
theorem LineByLine.forall₂_tests (h : LineByLine R reports reports') :
    List.Forall₂ R (reports.flatMap (·.tests)) (reports'.flatMap (·.tests)) :=
  List.rel_flatMap h fun _ _ hreport => hreport.2

/-! ## What gets better -/

/-- **With more names and more to ignore, no outcome gets worse.** -/
theorem noWorse_outcomeOf
    (hignored : test ∈ ignored.names → test ∈ ignored'.names)
    (hnames : Names comparison test → Names comparison' test) :
    NoWorse ⟨test, outcomeOf ignored (CoverageIndex.ofFiles comparison) test⟩
      ⟨test, outcomeOf ignored' (CoverageIndex.ofFiles comparison') test⟩ := by
  refine ⟨rfl, fun huncovered => ?_, fun hin => ?_⟩
  · obtain ⟨hout, hno⟩ := outcomeOf_eq_uncovered_iff.1 huncovered
    -- what is not ignored and not named now was neither before
    have hout' : test ∉ ignored.names := fun hin => hout (hignored hin)
    have hno' : NoCover comparison test :=
      noCover_iff.2 fun hnamed => noCover_iff.1 hno (hnames hnamed)
    exact outcomeOf_eq_uncovered_iff.2 ⟨hout', hno'⟩
  · exact outcomeOf_eq_ignored_iff.2 (hignored (outcomeOf_eq_ignored_iff.1 hin))

/-- The first place that covers a test stays the first when files are added at the end. -/
theorem FirstCover.append {files : List ComparisonFile} {place : Coverage}
    (h : FirstCover files test place) (more : List ComparisonFile) :
    FirstCover (files ++ more) test place := by
  obtain ⟨before, file, after, rfl, hbefore, hfile⟩ := h
  exact ⟨before, file, after ++ more, by simp, hbefore, hfile⟩

/-- **With files added at the end, no place changes.** -/
theorem keepsPlace_outcomeOf (hignored : test ∈ ignored'.names ↔ test ∈ ignored.names)
    (more : List ComparisonFile) :
    KeepsPlace ⟨test, outcomeOf ignored (CoverageIndex.ofFiles comparison) test⟩
      ⟨test, outcomeOf ignored' (CoverageIndex.ofFiles (comparison ++ more)) test⟩ := by
  refine ⟨rfl, fun place hplace => ?_⟩
  obtain ⟨hout, hfirst⟩ := outcomeOf_eq_covered_iff.1 hplace
  exact outcomeOf_eq_covered_iff.2 ⟨mt hignored.1 hout, hfirst.append more⟩

/-! ## What is counted -/

/-- A status is counted at least as often where it is kept line by line. -/
theorem countStatus_le_of_forall₂ {status : Status} (h : List.Forall₂ R lines lines')
    (hkeeps : ∀ line line', R line line' → line.outcome.status = status →
      line'.outcome.status = status) :
    countStatus status lines ≤ countStatus status lines' := by
  induction h with
  | nil => exact Nat.le_refl _
  | @cons line line' lines lines' hline _ ih =>
    rw [countStatus_cons, countStatus_cons]
    have hkept := hkeeps line line' hline
    by_cases hstatus : line.outcome.status = status
    · rw [if_pos hstatus, if_pos (hkept hstatus)]
      omega
    · rw [if_neg hstatus]
      omega

/-- Where no line gets worse, no more tests are uncovered, -/
theorem LineByLine.uncovered_le (h : LineByLine NoWorse reports reports') :
    (Summary.ofReports reports').uncovered ≤ (Summary.ofReports reports).uncovered := by
  rw [Summary.uncovered_ofReports, Summary.uncovered_ofReports]
  refine countStatus_le_of_forall₂ h.forall₂_tests.flip fun line line' hline hstatus => ?_
  rw [Outcome.status_eq_uncovered_iff] at hstatus ⊢
  exact hline.uncovered hstatus

/-- and no fewer are ignored. -/
theorem LineByLine.ignored_le (h : LineByLine NoWorse reports reports') :
    (Summary.ofReports reports).ignored ≤ (Summary.ofReports reports').ignored := by
  rw [Summary.ignored_ofReports, Summary.ignored_ofReports]
  refine countStatus_le_of_forall₂ h.forall₂_tests fun line line' hline hstatus => ?_
  rw [Outcome.status_eq_ignored_iff] at hstatus ⊢
  exact hline.ignored hstatus

/-- **Covering more and ignoring more never makes a report worse.** Let every name that is ignored
stay ignored and every test that is named stay named, in whatever files, order and number. Then the
report is on the same tests in the same order, no line gets worse, no more tests are uncovered and
no fewer are ignored, and a strict run that ended well still does. Where only comparison files are
added at the end, every covered test keeps its place. -/
theorem evaluate_mono (reference : List ReferenceFile) (ignored ignored' : IgnoreSet)
    (comparison comparison' : List ComparisonFile)
    (hignored : ∀ name ∈ ignored.names, name ∈ ignored'.names)
    (hnames : ∀ test, Names comparison test → Names comparison' test) :
    LineByLine NoWorse (evaluate ignored reference comparison)
      (evaluate ignored' reference comparison') ∧
    (Summary.ofReports (evaluate ignored' reference comparison')).uncovered ≤
      (Summary.ofReports (evaluate ignored reference comparison)).uncovered ∧
    (Summary.ofReports (evaluate ignored reference comparison)).ignored ≤
      (Summary.ofReports (evaluate ignored' reference comparison')).ignored ∧
    (∀ (disk disk' : DiskAccess Id) (settings settings' : Settings), settings.strict = true →
      (settings.load disk).run.result = .ok ⟨ignored, reference, comparison⟩ →
      (settings'.load disk').run.result = .ok ⟨ignored', reference, comparison'⟩ →
      (audit disk settings .unbounded).run.exitCode = 0 →
      (audit disk' settings' .unbounded).run.exitCode = 0) ∧
    ((∀ name, name ∈ ignored'.names ↔ name ∈ ignored.names) →
      ∀ more, comparison' = comparison ++ more →
      LineByLine KeepsPlace (evaluate ignored reference comparison)
        (evaluate ignored' reference comparison')) := by
  have hlines : LineByLine NoWorse (evaluate ignored reference comparison)
      (evaluate ignored' reference comparison') :=
    lineByLine_evaluate fun test => noWorse_outcomeOf (hignored test) (hnames test)
  refine ⟨hlines, hlines.uncovered_le, hlines.ignored_le, ?_, ?_⟩
  · intro disk disk' settings settings' hstrict hload hload' hexit
    rw [exitCode_eq_zero_iff hload']
    intro _
    -- the first run was strict, and so it had nothing uncovered
    have hnone : (Summary.ofReports (evaluate ignored reference comparison)).uncovered = 0 :=
      (exitCode_eq_zero_iff hload).1 hexit hstrict
    have hle := hlines.uncovered_le
    rw [hnone] at hle
    exact Nat.le_zero.1 hle
  · rintro hsame more rfl
    exact lineByLine_evaluate fun test => keepsPlace_outcomeOf (hsame test) more

/-- One more name to ignore, and the covers moved to another file under other labels. -/
theorem evaluate_mono_moved :
    LineByLine NoWorse
      (evaluate (.ofList ["test_a"]) [⟨"test_m", ["test_a", "test_b", "test_c", "test_d"]⟩]
        [⟨"x.test.ts", [⟨"first", "test_c"⟩, ⟨"second", "test_b"⟩]⟩])
      (evaluate (.ofList ["test_b", "test_a"])
        [⟨"test_m", ["test_a", "test_b", "test_c", "test_d"]⟩]
        [⟨"y.test.ts", [⟨"third", "test_b"⟩]⟩, ⟨"z.test.ts", [⟨"fourth", "test_c"⟩]⟩]) := by
  refine (evaluate_mono _ (.ofList ["test_a"]) (.ofList ["test_b", "test_a"])
    [⟨"x.test.ts", [⟨"first", "test_c"⟩, ⟨"second", "test_b"⟩]⟩]
    [⟨"y.test.ts", [⟨"third", "test_b"⟩]⟩, ⟨"z.test.ts", [⟨"fourth", "test_c"⟩]⟩] ?_ ?_).1
  · intro name hname
    rw [IgnoreSet.mem_names_ofList] at hname ⊢
    exact List.mem_cons_of_mem _ hname
  · intro test hnamed
    simp only [Names, List.mem_cons, List.not_mem_nil, or_false, exists_eq_or_imp,
      exists_eq_left] at hnamed ⊢
    exact hnamed.symm

end SuiteAudit
