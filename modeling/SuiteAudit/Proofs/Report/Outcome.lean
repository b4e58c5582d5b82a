import SuiteAudit.Report
import Mathlib.Data.List.Forall2
/-!
# Report — what the conclusions mean

The report is computed from a table that is filled once and from statuses that
escalate. This file says what it holds in terms of the two suites alone: which
pair covers a test (`FirstCover`), what is concluded about a test (`Concludes`),
and what the section of a file says (`ReportsOn`). Each of them fixes its answer,
and the computed one is that answer.
-/

namespace SuiteAudit

/-! ## Statuses -/

namespace Status

/-- A status that escalates stays covered only if both are. -/
theorem escalate_eq_covered_iff {a b : Status} :
    a.escalate b = covered ↔ a = covered ∧ b = covered := by
  cases a <;> cases b <;> decide

/-- And it comes to be uncovered as soon as one of them is. -/
theorem escalate_eq_uncovered_iff {a b : Status} :
    a.escalate b = uncovered ↔ a = uncovered ∨ b = uncovered := by
  cases a <;> cases b <;> decide

variable {statuses : List Status}

theorem foldl_escalate_eq_covered_iff {start : Status} :
    statuses.foldl escalate start = covered ↔ start = covered ∧ ∀ s ∈ statuses, s = covered := by
  induction statuses generalizing start with
  | nil => simp
  | cons s statuses ih =>
    rw [List.foldl_cons, ih, escalate_eq_covered_iff, List.forall_mem_cons, and_assoc]

theorem foldl_escalate_eq_uncovered_iff {start : Status} :
    statuses.foldl escalate start = uncovered ↔ start = uncovered ∨ uncovered ∈ statuses := by
  induction statuses generalizing start with
  | nil => simp
  | cons s statuses ih =>
    rw [List.foldl_cons, ih, escalate_eq_uncovered_iff, List.mem_cons, or_assoc, eq_comm (a := s)]

/-- The worst of some statuses is covered when all of them are, -/
theorem worst_eq_covered_iff : worst statuses = covered ↔ ∀ s ∈ statuses, s = covered := by
  simp [worst, foldl_escalate_eq_covered_iff]

/-- uncovered when one of them is, -/
theorem worst_eq_uncovered_iff : worst statuses = uncovered ↔ uncovered ∈ statuses := by
  simp [worst, foldl_escalate_eq_uncovered_iff]

/-- and ignored otherwise. -/
theorem worst_eq_ignored_iff :
    worst statuses = ignored ↔ uncovered ∉ statuses ∧ ignored ∈ statuses := by
  rw [← worst_eq_uncovered_iff]
  constructor
  · intro h
    have hunc : worst statuses ≠ uncovered := by simp [h]
    refine ⟨hunc, ?_⟩
    by_contra hnot
    -- with nothing else in the list, its worst would be covered
    have hcov : worst statuses = covered := by
      refine worst_eq_covered_iff.2 fun s hs => ?_
      cases s with
      | covered => rfl
      | ignored => exact absurd hs hnot
      | uncovered => exact absurd (worst_eq_uncovered_iff.2 hs) hunc
    rw [h] at hcov
    cases hcov
  · rintro ⟨hunc, hmem⟩
    cases hw : worst statuses with
    | covered => exact absurd (worst_eq_covered_iff.1 hw _ hmem) (by decide)
    | ignored => rfl
    | uncovered => exact absurd hw hunc

end Status

/-! ## Covers -/

section Covers

variable {files : List ComparisonFile} {test : String} {place : Coverage}

/-- No comparison test names a test. -/
def NoCover (files : List ComparisonFile) (test : String) : Prop :=
  ∀ file ∈ files, ∀ t ∈ file.tests, t.covers ≠ test

/-- **The first pair that covers a test**, in the order of the files and then in the order of the
tests of a file: no file before its file has one, and no test before it in its file is one. -/
def FirstCover (files : List ComparisonFile) (test : String) (place : Coverage) : Prop :=
  ∃ before file after, files = before ++ file :: after ∧ NoCover before test ∧
    ∃ earlier t later, file.tests = earlier ++ t :: later ∧ (∀ u ∈ earlier, u.covers ≠ test) ∧
      t.covers = test ∧ place = ⟨file.name, t.label⟩

theorem firstCover?_eq_none_iff : firstCover? files test = none ↔ NoCover files test := by
  simp [firstCover?, NoCover]

theorem firstCover?_eq_some_iff :
    firstCover? files test = some place ↔ FirstCover files test place := by
  rw [firstCover?, List.findSome?_eq_some_iff]
  constructor
  · rintro ⟨before, file, after, rfl, hfile, hbefore⟩
    obtain ⟨t, hfind, rfl⟩ := Option.map_eq_some_iff.1 hfile
    obtain ⟨ht, earlier, later, htests, hearlier⟩ := List.find?_eq_some_iff_append.1 hfind
    have hno : NoCover before test :=
      firstCover?_eq_none_iff.1 (List.findSome?_eq_none_iff.2 hbefore)
    exact ⟨before, file, after, rfl, hno, earlier, t, later, htests, by simpa using hearlier,
      by simpa using ht, rfl⟩
  · rintro ⟨before, file, after, rfl, hbefore, earlier, t, later, htests, hearlier, ht, rfl⟩
    refine ⟨before, file, after, rfl, ?_,
      List.findSome?_eq_none_iff.1 (firstCover?_eq_none_iff.2 hbefore)⟩
    have hfind : (file.tests.find? fun t => t.covers == test) = some t :=
      List.find?_eq_some_iff_append.2
        ⟨by simpa using ht, earlier, later, htests, by simpa using hearlier⟩
    rw [hfind, Option.map_some]

end Covers

/-! ## Sections -/

section Sections

variable {ignored : IgnoreSet} {files : List ComparisonFile} {test : String} {outcome : Outcome}
variable {file : ReferenceFile} {report : FileReport}

/-- **What is concluded about a test.** The ignore list comes first, also for a test that is
covered. -/
inductive Concludes (ignored : IgnoreSet) (files : List ComparisonFile) (test : String) :
    Outcome → Prop
  | ignored : test ∈ ignored.names → Concludes ignored files test .ignored
  | covered {place : Coverage} : test ∉ ignored.names → FirstCover files test place →
      Concludes ignored files test (.covered place)
  | uncovered : test ∉ ignored.names → NoCover files test →
      Concludes ignored files test .uncovered

/-- **What the section of a file says**: a line for each test of the file, in order and with its
repetitions, and the status that the lines have together, in whatever order. -/
structure ReportsOn (ignored : IgnoreSet) (files : List ComparisonFile) (file : ReferenceFile)
    (report : FileReport) : Prop where
  file_eq : report.file = file.name
  lines : List.Forall₂
    (fun test line => line.test = test ∧ Concludes ignored files test line.outcome)
    file.tests report.tests
  uncovered_iff : report.status = .uncovered ↔ ∃ line ∈ report.tests, line.outcome = .uncovered
  ignored_iff : report.status = .ignored ↔
    (∀ line ∈ report.tests, line.outcome ≠ .uncovered) ∧
      ∃ line ∈ report.tests, line.outcome = .ignored
  covered_iff : report.status = .covered ↔
    ∀ line ∈ report.tests, line.outcome ≠ .uncovered ∧ line.outcome ≠ .ignored

/-- The outcome from the table is what is concluded. -/
theorem concludes_iff :
    Concludes ignored files test outcome ↔
      outcome = outcomeOf ignored (CoverageIndex.ofFiles files) test := by
  simp only [outcomeOf, IgnoreSet.contains_iff_mem, CoverageIndex.lookup?_ofFiles]
  constructor
  · intro h
    cases h with
    | ignored hin => rw [if_pos hin]
    | covered hout hfirst => rw [if_neg hout, firstCover?_eq_some_iff.2 hfirst]
    | uncovered hout hno => rw [if_neg hout, firstCover?_eq_none_iff.2 hno]
  · rintro rfl
    by_cases hin : test ∈ ignored.names
    · rw [if_pos hin]
      exact .ignored hin
    · rw [if_neg hin]
      cases hfirst : firstCover? files test with
      | none => exact .uncovered hin (firstCover?_eq_none_iff.1 hfirst)
      | some place => exact .covered hin (firstCover?_eq_some_iff.1 hfirst)

/-- The lines of a file are those with the concluded outcomes. -/
theorem forall₂_concludes_iff {tests : List String} {lines : List TestLine} :
    List.Forall₂ (fun test line => line.test = test ∧ Concludes ignored files test line.outcome)
      tests lines ↔ lines = testLines ignored (CoverageIndex.ofFiles files) tests := by
  have hline : ∀ (test : String) (line : TestLine),
      line.test = test ∧ Concludes ignored files test line.outcome ↔
        ⟨test, outcomeOf ignored (CoverageIndex.ofFiles files) test⟩ = line := by
    rintro test ⟨test', outcome⟩
    rw [concludes_iff, TestLine.mk.injEq, eq_comm, eq_comm (a := outcome)]
  simp only [hline]
  rw [testLines, eq_comm, ← List.forall₂_eq_eq_eq, List.forall₂_map_left_iff]

/-! ### The status of a section -/

theorem Outcome.status_eq_uncovered_iff : outcome.status = .uncovered ↔ outcome = .uncovered := by
  cases outcome <;> simp [status]

theorem Outcome.status_eq_ignored_iff : outcome.status = .ignored ↔ outcome = .ignored := by
  cases outcome <;> simp [status]

theorem Outcome.status_eq_covered_iff :
    outcome.status = .covered ↔ outcome ≠ .uncovered ∧ outcome ≠ .ignored := by
  cases outcome <;> simp [status]

variable {lines : List TestLine}

theorem worst_lines_eq_uncovered_iff :
    Status.worst (lines.map (·.outcome.status)) = .uncovered ↔
      ∃ line ∈ lines, line.outcome = .uncovered := by
  simp only [Status.worst_eq_uncovered_iff, List.mem_map, Outcome.status_eq_uncovered_iff]

theorem worst_lines_eq_ignored_iff :
    Status.worst (lines.map (·.outcome.status)) = .ignored ↔
      (∀ line ∈ lines, line.outcome ≠ .uncovered) ∧ ∃ line ∈ lines, line.outcome = .ignored := by
  simp only [Status.worst_eq_ignored_iff, List.mem_map, Outcome.status_eq_uncovered_iff,
    Outcome.status_eq_ignored_iff, not_exists, not_and, ne_eq]

theorem worst_lines_eq_covered_iff :
    Status.worst (lines.map (·.outcome.status)) = .covered ↔
      ∀ line ∈ lines, line.outcome ≠ .uncovered ∧ line.outcome ≠ .ignored := by
  simp only [Status.worst_eq_covered_iff, List.forall_mem_map, Outcome.status_eq_covered_iff]

/-- **A section is fixed by what it says**, and it is the computed one. -/
theorem reportsOn_iff :
    ReportsOn ignored files file report ↔
      report = evaluateFile ignored (CoverageIndex.ofFiles files) file := by
  constructor
  · rintro ⟨hfile, hlines, huncovered, hignored, hcovered⟩
    have hstatus : report.status = Status.worst (report.tests.map (·.outcome.status)) := by
      symm
      cases hs : report.status with
      | covered => exact worst_lines_eq_covered_iff.2 (hcovered.1 hs)
      | ignored => exact worst_lines_eq_ignored_iff.2 (hignored.1 hs)
      | uncovered => exact worst_lines_eq_uncovered_iff.2 (huncovered.1 hs)
    cases report
    simp only at hfile hstatus hlines
    rw [evaluateFile, hfile, hstatus, forall₂_concludes_iff.1 hlines]
  · rintro rfl
    exact ⟨rfl, forall₂_concludes_iff.2 rfl, worst_lines_eq_uncovered_iff,
      worst_lines_eq_ignored_iff, worst_lines_eq_covered_iff⟩

end Sections

/-! ## Totals -/

/-- A test is uncovered when it is neither ignored nor named by a comparison test. -/
theorem outcomeOf_eq_uncovered_iff {ignored : IgnoreSet} {files : List ComparisonFile}
    {test : String} :
    outcomeOf ignored (CoverageIndex.ofFiles files) test = .uncovered ↔
      test ∉ ignored.names ∧ NoCover files test := by
  rw [eq_comm, ← concludes_iff]
  constructor
  · intro h
    cases h with
    | uncovered hout hno => exact ⟨hout, hno⟩
  · rintro ⟨hout, hno⟩
    exact .uncovered hout hno

/-- **Something uncovered is counted exactly where a reference file declares such a test.** -/
theorem uncovered_pos_iff {ignored : IgnoreSet} {reference : List ReferenceFile}
    {comparison : List ComparisonFile} :
    0 < (Summary.ofReports (evaluate ignored reference comparison)).uncovered ↔
      ∃ file ∈ reference, ∃ test ∈ file.tests,
        test ∉ ignored.names ∧ NoCover comparison test := by
  simp only [Summary.ofReports, Summary.ofReports.count, List.countP_pos_iff, evaluate,
    evaluateFile, List.mem_flatMap, List.mem_map, beq_iff_eq, Outcome.status_eq_uncovered_iff,
    ← outcomeOf_eq_uncovered_iff]
  constructor
  · rintro ⟨line, ⟨report, ⟨file, hfile, rfl⟩, hline⟩, hout⟩
    obtain ⟨test, htest, rfl⟩ := List.mem_map.1 hline
    exact ⟨file, hfile, test, htest, hout⟩
  · rintro ⟨file, hfile, test, htest, hout⟩
    exact ⟨_, ⟨_, ⟨file, hfile, rfl⟩, List.mem_map.2 ⟨test, htest, rfl⟩⟩, hout⟩

/-- **The report says of every reference file, in order, what follows from the two suites and the
ignore list**, and nothing else says so. -/
theorem evaluate_eq_iff (ignored : IgnoreSet) (reference : List ReferenceFile)
    (comparison : List ComparisonFile) (reports : List FileReport) :
    evaluate ignored reference comparison = reports ↔
      List.Forall₂ (ReportsOn ignored comparison) reference reports := by
  have hfile : ∀ (file : ReferenceFile) (report : FileReport),
      ReportsOn ignored comparison file report ↔
        evaluateFile ignored (CoverageIndex.ofFiles comparison) file = report :=
    fun file report => reportsOn_iff.trans eq_comm
  rw [evaluate, ← List.forall₂_eq_eq_eq, List.forall₂_map_left_iff]
  simp only [← hfile]

end SuiteAudit
