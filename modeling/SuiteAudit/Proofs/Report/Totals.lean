import SuiteAudit.Proofs.Report.Lines
import SuiteAudit.Proofs.Report.Outcome
import SuiteAudit.Run
/-!
# Report — totals, statuses and colors agree

A run is summed up in three places: the totals count outcomes, the status of a file
escalates over its tests, and each line is written in a color of its own. All of them
look at the same outcomes. Here the totals are related to the sections they count
(`SumsUp`) and to the lines on paper (`CountsLines`); that they agree on every run is
`totals_agree`.
-/

namespace SuiteAudit

/-! ## The worst status -/

namespace Status

variable {s : Status} {statuses : List Status}

theorem foldl_escalate (start : Status) (statuses : List Status) :
    statuses.foldl escalate start = start.escalate (worst statuses) := by
  induction statuses generalizing start with
  | nil => simp [worst]
  | cons s statuses ih =>
    rw [worst, List.foldl_cons, List.foldl_cons, ih, covered_escalate, ih s, escalate_assoc]

@[simp] theorem worst_nil : worst [] = covered := rfl

@[simp] theorem worst_cons : worst (s :: statuses) = s.escalate (worst statuses) := by
  rw [worst, List.foldl_cons, foldl_escalate, covered_escalate]

theorem worst_append (a b : List Status) : worst (a ++ b) = (worst a).escalate (worst b) := by
  rw [worst, List.foldl_append, foldl_escalate]
  rfl

/-- The worst of all is the worst of the worst of each part. -/
theorem worst_flatMap {α : Type} (parts : List α) (f : α → List Status) :
    worst (parts.flatMap f) = worst (parts.map fun part => worst (f part)) := by
  induction parts with
  | nil => rfl
  | cons part parts ih => rw [List.flatMap_cons, worst_append, ih, List.map_cons, worst_cons]

/-- The worst of some statuses is as bad as each of them, -/
theorem severity_le_worst (h : s ∈ statuses) : s.severity ≤ (worst statuses).severity := by
  induction statuses with
  | nil => simp at h
  | cons t statuses ih =>
    rw [worst_cons, severity_escalate]
    rcases List.mem_cons.1 h with rfl | h
    · exact Nat.le_max_left _ _
    · exact Nat.le_trans (ih h) (Nat.le_max_right _ _)

/-- and it is one of them. -/
theorem worst_mem (h : statuses ≠ []) : worst statuses ∈ statuses := by
  induction statuses with
  | nil => exact absurd rfl h
  | cons s statuses ih =>
    rw [worst_cons]
    cases statuses with
    | nil => simp
    | cons t statuses =>
      -- the worst of the others is one of them
      have hmem := ih (by simp)
      unfold escalate
      split
      · exact List.mem_cons_of_mem s hmem
      · exact List.mem_cons_self

end Status

/-! ## What the totals count -/

variable {reports : List FileReport} {line : TestLine} {lines : List TestLine}

/-- How many tests have a status. -/
def countStatus (status : Status) (lines : List TestLine) : Nat :=
  lines.countP fun line => line.outcome.status == status

theorem Summary.covered_ofReports :
    (ofReports reports).covered = countStatus .covered (reports.flatMap (·.tests)) := rfl

theorem Summary.ignored_ofReports :
    (ofReports reports).ignored = countStatus .ignored (reports.flatMap (·.tests)) := rfl

theorem Summary.uncovered_ofReports :
    (ofReports reports).uncovered = countStatus .uncovered (reports.flatMap (·.tests)) := rfl

theorem countStatus_cons (status : Status) :
    countStatus status (line :: lines) =
      countStatus status lines + if line.outcome.status = status then 1 else 0 := by
  simp [countStatus, List.countP_cons]

theorem countStatus_pos_iff {status : Status} :
    0 < countStatus status lines ↔ status ∈ lines.map (·.outcome.status) := by
  simp [countStatus, List.countP_pos_iff]

/-- Every test is counted once. -/
theorem countStatus_add (lines : List TestLine) :
    countStatus .covered lines + countStatus .ignored lines + countStatus .uncovered lines =
      lines.length := by
  induction lines with
  | nil => rfl
  | cons line lines ih =>
    simp only [countStatus_cons, List.length_cons]
    cases line.outcome.status <;> simp <;> omega

/-- **The status of the totals is the worst status of a test.** -/
theorem Summary.status_ofReports :
    (ofReports reports).status =
      Status.worst ((reports.flatMap (·.tests)).map (·.outcome.status)) := by
  rw [status, uncovered_ofReports, ignored_ofReports]
  simp only [countStatus_pos_iff]
  -- an uncovered test decides, and where there is none an ignored one
  split
  · rename_i huncovered
    exact (Status.worst_eq_uncovered_iff.2 huncovered).symm
  · rename_i huncovered
    split
    · rename_i hignored
      exact (Status.worst_eq_ignored_iff.2 ⟨huncovered, hignored⟩).symm
    · rename_i hignored
      refine (Status.worst_eq_covered_iff.2 fun s hs => ?_).symm
      cases s with
      | covered => rfl
      | ignored => exact absurd hs hignored
      | uncovered => exact absurd hs huncovered

/-! ## What the lines count -/

/-- The line of a test and, below it, the line of its place make up two for a covered test and one
for any other. -/
theorem TestLine.length_lines (line : TestLine) :
    line.lines.length = 1 + if line.outcome.status = .covered then 1 else 0 := by
  obtain ⟨test, outcome⟩ := line
  cases outcome <;> simp [lines, Outcome.status]

/-- One of them is about the test, and the other one about the place. -/
theorem TestLine.countP_role_lines (line : TestLine) (role : LineRole) :
    line.lines.countP (·.role == role) =
      (if role = .test then 1 else 0) +
        if role = .place ∧ line.outcome.status = .covered then 1 else 0 := by
  obtain ⟨test, outcome⟩ := line
  cases outcome <;> cases role <;> simp [lines, Outcome.status]

theorem countStatus_append (status : Status) (a b : List TestLine) :
    countStatus status (a ++ b) = countStatus status a + countStatus status b :=
  List.countP_append

theorem length_flatMap_lines (lines : List TestLine) :
    (lines.flatMap TestLine.lines).length = lines.length + countStatus .covered lines := by
  induction lines with
  | nil => rfl
  | cons line lines ih =>
    rw [List.flatMap_cons, List.length_append, line.length_lines, ih, List.length_cons,
      countStatus_cons]
    omega

/-- **A report has a line for each file and each test, and one more for each covered test.** -/
theorem length_reportLines (reports : List FileReport) :
    (reportLines reports).length =
      reports.length + (reports.flatMap (·.tests)).length +
        countStatus .covered (reports.flatMap (·.tests)) := by
  induction reports with
  | nil => rfl
  | cons report reports ih =>
    rw [reportLines, List.flatMap_cons, List.length_append, ← reportLines, ih, FileReport.lines,
      List.length_cons, length_flatMap_lines, List.flatMap_cons, List.length_append,
      List.length_cons, countStatus_append]
    omega

theorem countP_role_flatMap_lines (role : LineRole) (lines : List TestLine) :
    (lines.flatMap TestLine.lines).countP (·.role == role) =
      (if role = .test then lines.length else 0) +
        if role = .place then countStatus .covered lines else 0 := by
  induction lines with
  | nil => cases role <;> rfl
  | cons line lines ih =>
    rw [List.flatMap_cons, List.countP_append, line.countP_role_lines, ih, List.length_cons,
      countStatus_cons]
    cases role with
    | test => simp [Nat.add_comm]
    | place => simp [Nat.add_comm]
    | header => rfl
    | totals => rfl

/-- **And the lines are about these**: a header for each file, a line of its own for each test, and
a line below it for each covered one. -/
theorem countP_role_reportLines (role : LineRole) (reports : List FileReport) :
    (reportLines reports).countP (·.role == role) =
      (if role = .header then reports.length else 0) +
        (if role = .test then (reports.flatMap (·.tests)).length else 0) +
        if role = .place then countStatus .covered (reports.flatMap (·.tests)) else 0 := by
  induction reports with
  | nil => cases role <;> rfl
  | cons report reports ih =>
    rw [reportLines, List.flatMap_cons, List.countP_append, ← reportLines, ih, FileReport.lines,
      List.countP_cons, countP_role_flatMap_lines, List.flatMap_cons, List.length_append,
      List.length_cons, countStatus_append]
    cases role with
    | header => simp [Nat.add_comm]
    | test => simp
    | place => simp
    | totals => simp

/-! ### Colors -/

theorem Status.color_inj {s t : Status} : s.color = t.color ↔ s = t := by
  cases s <;> cases t <;> decide

/-- Each line of a test has the color of its outcome. -/
theorem TestLine.color_of_mem_lines {l : ReportLine} (h : l ∈ line.lines) :
    l.color = line.outcome.status.color := by
  obtain ⟨test, outcome⟩ := line
  cases outcome with
  | ignored =>
    obtain rfl := List.mem_singleton.1 h
    rfl
  | uncovered =>
    obtain rfl := List.mem_singleton.1 h
    rfl
  | covered place =>
    rcases List.mem_pair.1 h with rfl | rfl
    · rfl
    · rfl

/-- A test has a line of its own. -/
theorem TestLine.exists_test_mem_lines (line : TestLine) :
    ∃ l ∈ line.lines, l.role = .test ∧ l.color = line.outcome.status.color := by
  obtain ⟨test, outcome⟩ := line
  cases outcome <;> exact ⟨_, List.mem_cons_self, rfl, rfl⟩

/-- A line of a test is no header. -/
theorem TestLine.role_ne_header {l : ReportLine} (h : l ∈ line.lines) : l.role ≠ .header := by
  intro hrole
  have hpos : 0 < line.lines.countP (·.role == .header) :=
    List.countP_pos_iff.2 ⟨l, h, by simp [hrole]⟩
  rw [line.countP_role_lines] at hpos
  simp at hpos

theorem mem_reportLines_iff {l : ReportLine} :
    l ∈ reportLines reports ↔ ∃ report ∈ reports,
      l = ⟨.header, report.status.color, report.file⟩ ∨ ∃ line ∈ report.tests, l ∈ line.lines := by
  simp [reportLines, FileReport.lines]

/-- Some test line has the color of a status exactly if the status was counted. -/
theorem exists_test_color_iff (status : Status) :
    (∃ l ∈ reportLines reports, l.role = .test ∧ l.color = status.color) ↔
      0 < countStatus status (reports.flatMap (·.tests)) := by
  rw [countStatus_pos_iff]
  simp only [List.mem_map, List.mem_flatMap]
  constructor
  · rintro ⟨l, hl, hrole, hstatus⟩
    obtain ⟨report, hreport, rfl | ⟨line, hline, hmem⟩⟩ := mem_reportLines_iff.1 hl
    · cases hrole
    · rw [line.color_of_mem_lines hmem, Status.color_inj] at hstatus
      exact ⟨line, ⟨report, hreport, hline⟩, hstatus⟩
  · rintro ⟨line, ⟨report, hreport, hline⟩, rfl⟩
    obtain ⟨l, hmem, hrole, hstatus⟩ := line.exists_test_mem_lines
    exact ⟨l, mem_reportLines_iff.2 ⟨report, hreport, .inr ⟨line, hline, hmem⟩⟩, hrole, hstatus⟩

/-- Some header has the color of a status exactly if a file has the status. -/
theorem exists_header_color_iff (status : Status) :
    (∃ l ∈ reportLines reports, l.role = .header ∧ l.color = status.color) ↔
      ∃ report ∈ reports, report.status = status := by
  constructor
  · rintro ⟨l, hl, hrole, hstatus⟩
    obtain ⟨report, hreport, rfl | ⟨line, hline, hmem⟩⟩ := mem_reportLines_iff.1 hl
    · exact ⟨report, hreport, Status.color_inj.1 hstatus⟩
    · exact absurd hrole (line.role_ne_header hmem)
  · rintro ⟨report, hreport, rfl⟩
    exact ⟨_, mem_reportLines_iff.2 ⟨report, hreport, .inl rfl⟩, rfl, rfl⟩

/-! ## Sections that are evaluated -/

/-- Each section has the worst status of its tests. -/
def Escalates (reports : List FileReport) : Prop :=
  ∀ report ∈ reports, report.status = Status.worst (report.tests.map (·.outcome.status))

theorem escalates_evaluate (ignored : IgnoreSet) (reference : List ReferenceFile)
    (comparison : List ComparisonFile) : Escalates (evaluate ignored reference comparison) := by
  intro report hreport
  obtain ⟨file, -, rfl⟩ := List.mem_map.1 hreport
  rfl

/-- The status of the totals is then the worst status of a file. -/
theorem Escalates.status_ofReports (h : Escalates reports) :
    (Summary.ofReports reports).status = Status.worst (reports.map (·.status)) := by
  rw [Summary.status_ofReports, List.map_flatMap, Status.worst_flatMap]
  exact congrArg Status.worst (List.map_congr_left fun report hreport => (h report hreport).symm)

/-- A file is uncovered exactly if an uncovered test was counted. -/
theorem Escalates.exists_uncovered_iff (h : Escalates reports) :
    (∃ report ∈ reports, report.status = .uncovered) ↔
      0 < countStatus .uncovered (reports.flatMap (·.tests)) := by
  rw [countStatus_pos_iff, List.map_flatMap, List.mem_flatMap]
  refine exists_congr fun report => and_congr_right fun hreport => ?_
  rw [h report hreport, Status.worst_eq_uncovered_iff]

/-- A red line tells of an uncovered test: it is that test's, or the header above it. -/
theorem Escalates.exists_red_iff (h : Escalates reports) :
    (∃ l ∈ reportLines reports, l.color = .red) ↔
      0 < countStatus .uncovered (reports.flatMap (·.tests)) := by
  constructor
  · rintro ⟨l, hl, hred⟩
    obtain ⟨report, hreport, rfl | ⟨line, hline, hmem⟩⟩ := mem_reportLines_iff.1 hl
    · exact h.exists_uncovered_iff.1 ⟨report, hreport, Status.color_inj.1 hred⟩
    · -- both lines of a covered test are green, so that this is a line of an uncovered one
      rw [line.color_of_mem_lines hmem] at hred
      have huncovered : line.outcome.status = .uncovered := Status.color_inj.1 hred
      exact countStatus_pos_iff.2
        (List.mem_map.2 ⟨line, List.mem_flatMap.2 ⟨report, hreport, hline⟩, huncovered⟩)
  · intro hpos
    obtain ⟨l, hl, -, hred⟩ := (exists_test_color_iff .uncovered).2 hpos
    exact ⟨l, hl, hred⟩

/-- The lines of evaluated files are those of their tests, in number and order. -/
theorem length_flatMap_tests_evaluate (ignored : IgnoreSet) (reference : List ReferenceFile)
    (comparison : List ComparisonFile) :
    ((evaluate ignored reference comparison).flatMap (·.tests)).length =
      (reference.flatMap (·.tests)).length := by
  simp [evaluate, evaluateFile, testLines, List.length_flatMap, List.flatMap_map]

/-! ## The places that sum up a run -/

/-- **The totals sum up the sections**: they count every file and every test, and their status is
the worst of a file. -/
structure SumsUp (reference : List ReferenceFile) (reports : List FileReport)
    (summary : Summary) : Prop where
  files_eq : summary.files = reference.length
  tests_eq : summary.covered + summary.ignored + summary.uncovered =
    (reference.flatMap (·.tests)).length
  severity_le : ∀ report ∈ reports, report.status.severity ≤ summary.status.severity
  status_mem : reports ≠ [] → ∃ report ∈ reports, report.status = summary.status
  status_nil : reports = [] → summary.status = .covered

/-- **The totals count the lines**: how many there are of each sort, and whether there are red and
yellow ones. -/
structure CountsLines (lines : List ReportLine) (summary : Summary) : Prop where
  headers : lines.countP (·.role == .header) = summary.files
  tests : lines.countP (·.role == .test) = summary.covered + summary.ignored + summary.uncovered
  places : lines.countP (·.role == .place) = summary.covered
  length_eq : lines.length =
    summary.files + 2 * summary.covered + summary.ignored + summary.uncovered
  red_iff : (∃ l ∈ lines, l.color = .red) ↔ 0 < summary.uncovered
  red_header_iff : (∃ l ∈ lines, l.role = .header ∧ l.color = .red) ↔ 0 < summary.uncovered
  yellow_test_iff : (∃ l ∈ lines, l.role = .test ∧ l.color = .yellow) ↔ 0 < summary.ignored

theorem sumsUp_evaluate (ignored : IgnoreSet) (reference : List ReferenceFile)
    (comparison : List ComparisonFile) :
    SumsUp reference (evaluate ignored reference comparison)
      (Summary.ofReports (evaluate ignored reference comparison)) := by
  have hstatus := (escalates_evaluate ignored reference comparison).status_ofReports
  refine ⟨?_, ?_, fun report hreport => ?_, fun hne => ?_, fun hnil => ?_⟩
  · simp [Summary.ofReports, evaluate]
  · rw [Summary.covered_ofReports, Summary.ignored_ofReports, Summary.uncovered_ofReports,
      countStatus_add, length_flatMap_tests_evaluate]
  · rw [hstatus]
    exact Status.severity_le_worst (List.mem_map_of_mem hreport)
  · rw [hstatus]
    exact List.mem_map.1 (Status.worst_mem (by simpa using hne))
  · rw [hstatus, hnil, List.map_nil, Status.worst_nil]

theorem Escalates.countsLines (h : Escalates reports) :
    CountsLines (reportLines reports) (Summary.ofReports reports) := by
  have hadd := countStatus_add (reports.flatMap (·.tests))
  refine ⟨?_, ?_, ?_, ?_, h.exists_red_iff, ?_, exists_test_color_iff .ignored⟩
  · simp [countP_role_reportLines, Summary.ofReports]
  · simp [countP_role_reportLines, Summary.covered_ofReports, Summary.ignored_ofReports,
      Summary.uncovered_ofReports, hadd]
  · simp [countP_role_reportLines, Summary.covered_ofReports]
  · rw [length_reportLines, Summary.covered_ofReports, Summary.ignored_ofReports,
      Summary.uncovered_ofReports, ← hadd]
    show reports.length + _ + _ = reports.length + _ + _ + _
    omega
  · exact (exists_header_color_iff .uncovered).trans h.exists_uncovered_iff

/-- **Totals, statuses and colors agree.** On every run the totals sum up the sections and count the
lines, and these lines are what is written to a colored sink: it takes as many line feeds as there
are lines, those inside the names and labels apart. -/
theorem totals_agree (loaded : Loaded) :
    SumsUp loaded.reference loaded.reports loaded.summary ∧
      CountsLines (reportLines loaded.reports) loaded.summary ∧
      String.join (reportPieces .colored loaded.reports) =
        String.join ((reportLines loaded.reports).map (ReportLine.written .colored)) ∧
      (String.join (reportPieces .colored loaded.reports)).toList.count '\n' =
        (reportLines loaded.reports).length +
          (String.join ((reportLines loaded.reports).map (·.text))).toList.count '\n' := by
  obtain ⟨ignored, reference, comparison⟩ := loaded
  have hsums := sumsUp_evaluate ignored reference comparison
  have hcounts := (escalates_evaluate ignored reference comparison).countsLines
  refine ⟨hsums, hcounts, join_reportPieces _, ?_⟩
  rw [join_reportPieces, count_newline_join_written]

end SuiteAudit
