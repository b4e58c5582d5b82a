import SuiteAudit.Proofs.Report.Totals
/-!
# Report — what does not hang on places

A covered test is reported with the first place that covers it, and which place comes
first hangs on the order of the comparison files. Everything else hangs only on which
tests are named at all (`Names`). The outline of a section is the section without the
places: it stays the same when the comparison suite is put together in another way
(`map_outline_evaluate_perm`), and the totals can be read off it
(`Summary.ofReports_eq_of_perm`).
-/

namespace SuiteAudit

variable {ignored ignored' : IgnoreSet} {files files' comparison comparison' : List ComparisonFile}
variable {reference reference' : List ReferenceFile} {test : String} {place : Coverage}
variable {reports reports' : List FileReport}

/-! ## Tests that are named -/

/-- Some comparison test names a test. -/
def Names (files : List ComparisonFile) (test : String) : Prop :=
  ∃ file ∈ files, ∃ t ∈ file.tests, t.covers = test

theorem noCover_iff : NoCover files test ↔ ¬ Names files test := by
  simp [NoCover, Names]

/-- The order of the files does not matter. -/
theorem names_iff_of_perm (h : files.Perm files') : Names files test ↔ Names files' test :=
  exists_congr fun _ => and_congr_left fun _ => h.mem_iff

/-- The first place that covers a test is a place that covers it. -/
theorem FirstCover.exists_mem (h : FirstCover files test place) :
    ∃ file ∈ files, ∃ t ∈ file.tests, t.covers = test ∧ place = ⟨file.name, t.label⟩ := by
  obtain ⟨before, file, after, rfl, -, earlier, t, later, htests, -, ht, rfl⟩ := h
  exact ⟨file, by simp, t, by simp [htests], ht, rfl⟩

theorem outcomeOf_eq_ignored_iff :
    outcomeOf ignored (CoverageIndex.ofFiles files) test = .ignored ↔
      test ∈ ignored.names := by
  rw [eq_comm, ← concludes_iff]
  constructor
  · intro h
    cases h with
    | ignored hin => exact hin
  · exact .ignored

theorem outcomeOf_eq_covered_iff :
    outcomeOf ignored (CoverageIndex.ofFiles files) test = .covered place ↔
      test ∉ ignored.names ∧ FirstCover files test place := by
  rw [eq_comm, ← concludes_iff]
  constructor
  · intro h
    cases h with
    | covered hout hfirst => exact ⟨hout, hfirst⟩
  · rintro ⟨hout, hfirst⟩
    exact .covered hout hfirst

/-- **The status of a test hangs on whether it is ignored and whether it is named**, and on
nothing else. -/
theorem status_outcomeOf_congr (hignored : test ∈ ignored.names ↔ test ∈ ignored'.names)
    (hnames : Names files test ↔ Names files' test) :
    (outcomeOf ignored (CoverageIndex.ofFiles files) test).status =
      (outcomeOf ignored' (CoverageIndex.ofFiles files') test).status := by
  cases houtcome : outcomeOf ignored (CoverageIndex.ofFiles files) test with
  | ignored =>
    rw [outcomeOf_eq_ignored_iff.2 (hignored.1 (outcomeOf_eq_ignored_iff.1 houtcome))]
  | uncovered =>
    obtain ⟨hout, hno⟩ := outcomeOf_eq_uncovered_iff.1 houtcome
    rw [hignored] at hout
    rw [noCover_iff, hnames, ← noCover_iff] at hno
    rw [outcomeOf_eq_uncovered_iff.2 ⟨hout, hno⟩]
  | covered place =>
    obtain ⟨hout, hfirst⟩ := outcomeOf_eq_covered_iff.1 houtcome
    obtain ⟨file, hfile, t, ht, hcovers, -⟩ := hfirst.exists_mem
    have hnamed : Names files' test := hnames.1 ⟨file, hfile, t, ht, hcovers⟩
    -- the test is covered there as well, by whatever place
    cases houtcome' : outcomeOf ignored' (CoverageIndex.ofFiles files') test with
    | ignored => exact absurd (hignored.2 (outcomeOf_eq_ignored_iff.1 houtcome')) hout
    | uncovered =>
      exact absurd hnamed (noCover_iff.1 (outcomeOf_eq_uncovered_iff.1 houtcome').2)
    | covered place' => rfl

/-! ## Outlines -/

/-- A section without the places that cover its tests. -/
structure Outline where
  file : String
  status : Status
  tests : List (String × Status)
deriving Repr, DecidableEq

/-- What a section says, apart from places. -/
def FileReport.outline (report : FileReport) : Outline :=
  ⟨report.file, report.status, report.tests.map fun line => (line.test, line.outcome.status)⟩

/-- A section says the same where each of its tests has the same status. -/
theorem outline_evaluateFile_congr {index index' : CoverageIndex} {file : ReferenceFile}
    (h : ∀ test ∈ file.tests,
      (outcomeOf ignored index test).status = (outcomeOf ignored' index' test).status) :
    (evaluateFile ignored index file).outline = (evaluateFile ignored' index' file).outline := by
  simp only [FileReport.outline, evaluateFile, testLines, List.map_map, Function.comp_def]
  have hstatus := List.map_congr_left h
  have htests : (file.tests.map fun test => (test, (outcomeOf ignored index test).status)) =
      file.tests.map fun test => (test, (outcomeOf ignored' index' test).status) :=
    List.map_congr_left fun test htest => by rw [h test htest]
  rw [hstatus, htests]

/-- And so does the whole report on the same files. -/
theorem map_outline_evaluate_congr
    (h : ∀ test, (outcomeOf ignored (CoverageIndex.ofFiles comparison) test).status =
      (outcomeOf ignored' (CoverageIndex.ofFiles comparison') test).status) :
    (evaluate ignored reference comparison).map FileReport.outline =
      (evaluate ignored' reference comparison').map FileReport.outline := by
  simp only [evaluate, List.map_map]
  exact List.map_congr_left fun file _ => outline_evaluateFile_congr fun test _ => h test

/-- **The report says the same**, apart from places and from the order of its sections, when the
reference files come in another order and other comparison files name the same tests. -/
theorem map_outline_evaluate_perm (href : reference.Perm reference')
    (hnames : ∀ test, Names comparison test ↔ Names comparison' test) :
    ((evaluate ignored reference comparison).map FileReport.outline).Perm
      ((evaluate ignored reference' comparison').map FileReport.outline) := by
  rw [map_outline_evaluate_congr fun test => status_outcomeOf_congr Iff.rfl (hnames test)]
  exact (href.map _).map _

/-- What the totals count, read off the outlines. -/
theorem countStatus_eq_countP_outline (status : Status) (reports : List FileReport) :
    countStatus status (reports.flatMap (·.tests)) =
      ((reports.map FileReport.outline).flatMap (·.tests)).countP fun test => test.2 == status := by
  simp only [countStatus, List.flatMap_map, FileReport.outline, ← List.map_flatMap,
    List.countP_map, Function.comp_def]

/-- **The totals hang on the outlines alone**, in whatever order. -/
theorem Summary.ofReports_eq_of_perm
    (h : (reports.map FileReport.outline).Perm (reports'.map FileReport.outline)) :
    Summary.ofReports reports = Summary.ofReports reports' := by
  have hcount : ∀ status, countStatus status (reports.flatMap (·.tests)) =
      countStatus status (reports'.flatMap (·.tests)) := fun status => by
    rw [countStatus_eq_countP_outline, countStatus_eq_countP_outline]
    exact (h.flatMap_right _).countP_eq _
  have hfiles : reports.length = reports'.length := by simpa using h.length_eq
  rw [Summary.ofReports, Summary.ofReports, hfiles]
  exact congr (congr (congrArg _ (hcount .covered)) (hcount .ignored)) (hcount .uncovered)

end SuiteAudit
