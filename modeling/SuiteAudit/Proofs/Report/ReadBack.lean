import SuiteAudit.Proofs.Report.Colors
import SuiteAudit.Proofs.Report.Totals
import SuiteAudit.Proofs.Segments
/-!
# Report — reading a colored report back

A colored report tells what it was written for. Its lines are told apart by their colors:
where no text holds an escape, a text ends where the next escape stands
(`written_colored_unique`). What a line is about is told by how its text begins
(`shownRole`), so that the lines fall into segments, one for each file, and those of a file
into segments again, one for each test. In the line of a place the label is what stands
between the last two quotes (`Coverage.text_inj`).
-/

namespace SuiteAudit

open Text

variable {report report' : FileReport} {reports reports' : List FileReport}
variable {line line' : TestLine} {place place' : Coverage} {l l' : ReportLine}

/-! ## Lines -/

theorem Color.sequence_inj {c c' : Color} : c.sequence = c'.sequence ↔ c = c' := by
  cases c <;> cases c' <;> decide

theorem Color.length_sequence (c : Color) : c.sequence.toList.length = 5 := by
  cases c <;> decide

/-- **A colored line is told from what follows it**, its color and its text, where no text holds an
escape. -/
theorem ReportLine.written_colored_unique {rest rest' : List Char} (hl : NoEscape l.text)
    (hl' : NoEscape l'.text)
    (h : (l.written .colored).toList ++ rest = (l'.written .colored).toList ++ rest') :
    l.color = l'.color ∧ l.text = l'.text ∧ rest = rest' := by
  have hlength : l.color.sequence.toList.length = l'.color.sequence.toList.length := by
    rw [l.color.length_sequence, l'.color.length_sequence]
  simp only [written, String.toList_append, List.append_assoc] at h
  obtain ⟨hcolor, h⟩ := List.append_inj (List.append_cancel_left h) hlength
  -- the text ends where the escape behind it stands
  obtain ⟨htext, h⟩ := cut_at_first (b := '\x1b') h hl hl'
  exact ⟨Color.sequence_inj.1 (String.toList_inj.1 hcolor), String.toList_inj.1 htext,
    List.append_cancel_left (List.append_cancel_left h)⟩

/-- What a line of a section is about, as its text shows it. -/
def shownRole (text : String) : LineRole :=
  if " |  |  ".toList <+: text.toList then .place
  else if " |  ".toList <+: text.toList then .test
  else .header

theorem shownRole_file {file : String} (h : ¬ " |  ".toList <+: file.toList) :
    shownRole file = .header := by
  have hlead : " |  ".toList <+: " |  |  ".toList := ⟨"|  ".toList, rfl⟩
  rw [shownRole, if_neg fun hplace => h (hlead.trans hplace), if_neg h]

theorem shownRole_test (h : ¬ "|  ".toList <+: line.test.toList) : shownRole line.text = .test := by
  have hlead : " |  |  ".toList = " |  ".toList ++ "|  ".toList := rfl
  have htext : line.text.toList = " |  ".toList ++ line.test.toList := String.toList_append
  rw [shownRole, htext, if_neg, if_pos (List.prefix_append _ _)]
  rwa [hlead, List.prefix_append_right_inj]

theorem shownRole_place (place : Coverage) : shownRole place.text = .place := by
  rw [shownRole, if_pos]
  simp only [Coverage.text, String.toList_append, List.append_assoc]
  exact List.prefix_append _ _

/-- **A line can be read back**: its text holds no escape, and shows what the line is about. -/
structure ReportLine.Legible (l : ReportLine) : Prop where
  noEscape : NoEscape l.text
  role_eq : l.role = shownRole l.text

/-- **Colored lines can be read back.** -/
theorem lines_unique {lines lines' : List ReportLine} (hlines : ∀ l ∈ lines, l.Legible)
    (hlines' : ∀ l ∈ lines', l.Legible)
    (h : String.join (lines.map (ReportLine.written .colored)) =
      String.join (lines'.map (ReportLine.written .colored))) : lines = lines' := by
  have hne : ∀ (l : ReportLine) (rest : String), l.written .colored ++ rest ≠ "" := by
    intro l rest heq
    simpa [ReportLine.written] using congrArg String.toList heq
  induction lines generalizing lines' with
  | nil =>
    cases lines' with
    | nil => rfl
    | cons l' lines' => exact absurd h.symm (by rw [List.map_cons, String.join_cons]; exact hne _ _)
  | cons l lines ih =>
    cases lines' with
    | nil => exact absurd h (by rw [List.map_cons, String.join_cons]; exact hne _ _)
    | cons l' lines' =>
      have hl := hlines l (by simp)
      have hl' := hlines' l' (by simp)
      rw [List.map_cons, List.map_cons, String.join_cons, String.join_cons, ← String.toList_inj,
        String.toList_append, String.toList_append] at h
      obtain ⟨hcolor, htext, hrest⟩ := l.written_colored_unique hl.noEscape hl'.noEscape h
      have hrole : l.role = l'.role := by rw [hl.role_eq, hl'.role_eq, htext]
      have hfirst : l = l' := by
        cases l
        cases l'
        simp only [ReportLine.mk.injEq]
        exact ⟨hrole, hcolor, htext⟩
      rw [hfirst, ih (fun k hk => hlines k (by simp [hk])) (fun k hk => hlines' k (by simp [hk]))
        (String.toList_inj.1 hrest)]

/-! ## Sections -/

/-- **A section can be read back**: it names nothing with an escape in it, its file does not look
like a test nor a test of it like a place, and no label has a quote in it. -/
structure FileReport.Legible (report : FileReport) : Prop where
  clean : report.Clean
  file : ¬ " |  ".toList <+: report.file.toList
  test : ∀ line ∈ report.tests, ¬ "|  ".toList <+: line.test.toList
  label : ∀ line ∈ report.tests, ∀ place, line.outcome = .covered place →
    '\'' ∉ place.label.toList

/-- The lines of a legible section are legible. -/
theorem FileReport.Legible.legible_of_mem_lines (h : report.Legible) (hl : l ∈ report.lines) :
    l.Legible := by
  refine ⟨h.clean.noEscape_of_mem_lines hl, ?_⟩
  rcases List.mem_cons.1 hl with rfl | hl
  · exact (shownRole_file h.file).symm
  · obtain ⟨⟨test, outcome⟩, hline, hl⟩ := List.mem_flatMap.1 hl
    have htest := (shownRole_test (h.test _ hline)).symm
    cases outcome with
    | ignored =>
      obtain rfl := List.mem_singleton.1 hl
      exact htest
    | uncovered =>
      obtain rfl := List.mem_singleton.1 hl
      exact htest
    | covered place =>
      rcases List.mem_pair.1 hl with rfl | rfl
      · exact htest
      · exact (shownRole_place place).symm

/-- **The line of a place tells its file from its label**, where the label holds no quote. -/
theorem Coverage.text_inj (hlabel : '\'' ∉ place.label.toList)
    (hlabel' : '\'' ∉ place'.label.toList) (h : place.text = place'.text) : place = place' := by
  -- read from its end, the line holds a quote, the label and the next quote
  replace h := congrArg (fun text : String => text.toList.reverse) h
  simp only [text, String.toList_append, List.reverse_append] at h
  obtain ⟨hlabels, h⟩ := cut_at_first (b := '\'') (List.append_cancel_left h)
    (by simpa using hlabel) (by simpa using hlabel')
  have hfiles := List.append_cancel_right (List.append_cancel_left h)
  cases place
  cases place'
  simp only [mk.injEq, ← String.toList_inj]
  exact ⟨List.reverse_injective hfiles, List.reverse_injective hlabels⟩

/-- **A test is told by its lines.** -/
theorem TestLine.lines_inj
    (hlabel : ∀ place, line.outcome = .covered place → '\'' ∉ place.label.toList)
    (hlabel' : ∀ place, line'.outcome = .covered place → '\'' ∉ place.label.toList)
    (h : line.lines = line'.lines) : line = line' := by
  obtain ⟨test, outcome⟩ := line
  obtain ⟨test', outcome'⟩ := line'
  cases outcome with
  | ignored =>
    cases outcome' with
    | ignored => simpa [lines] using h
    | covered place' => simp [lines] at h
    | uncovered => simp [lines] at h
  | uncovered =>
    cases outcome' with
    | ignored => simp [lines] at h
    | covered place' => simp [lines] at h
    | uncovered => simpa [lines] using h
  | covered place =>
    cases outcome' with
    | ignored => simp [lines] at h
    | uncovered => simp [lines] at h
    | covered place' =>
      simp only [lines, List.cons.injEq, ReportLine.mk.injEq, true_and, and_true,
        String.append_right_inj] at h
      obtain ⟨htest, hplace⟩ := h
      rw [htest, Coverage.text_inj (hlabel place rfl) (hlabel' place' rfl) hplace]

/-- The lines of a test are one segment: the line of the test, and no other one about a test. -/
theorem TestLine.isSegment_lines (line : TestLine) :
    IsSegment (fun l : ReportLine => l.role == .test) line.lines := by
  obtain ⟨test, outcome⟩ := line
  cases outcome with
  | ignored => exact ⟨_, [], rfl, rfl, by simp⟩
  | uncovered => exact ⟨_, [], rfl, rfl, by simp⟩
  | covered place => exact ⟨_, [_], rfl, rfl, by simp⟩

/-- And the lines of a section are one: its header, and no other one. -/
theorem FileReport.isSegment_lines (report : FileReport) :
    IsSegment (fun l : ReportLine => l.role == .header) report.lines := by
  refine ⟨_, _, rfl, rfl, fun l hl => ?_⟩
  obtain ⟨line, -, hl⟩ := List.mem_flatMap.1 hl
  exact beq_eq_false_iff_ne.2 (line.role_ne_header hl)

/-- **A legible section is told by its lines.** -/
theorem FileReport.Legible.lines_inj (h : report.Legible) (h' : report'.Legible)
    (hlines : report.lines = report'.lines) : report = report' := by
  rw [FileReport.lines, FileReport.lines, List.cons.injEq, ReportLine.mk.injEq,
    Status.color_inj] at hlines
  obtain ⟨⟨-, hstatus, hfile⟩, htests⟩ := hlines
  have htests' : report.tests = report'.tests :=
    segments_unique htests (fun line _ => line.isSegment_lines) (fun line _ => line.isSegment_lines)
      fun line hline line' hline' => TestLine.lines_inj (h.label line hline) (h'.label line' hline')
  cases report
  cases report'
  simp only [FileReport.mk.injEq]
  exact ⟨hfile, hstatus, htests'⟩

/-! ## Reports -/

/-- What a sink that takes everything is left with holds the lines of the report. -/
theorem accept_reportPieces (palette : Palette) (reports : List FileReport) :
    (Sink.unbounded.accept ((reportPieces palette reports).map utf8Bytes)).1 =
      utf8Bytes (String.join ((reportLines reports).map (ReportLine.written palette))) := by
  rw [Sink.accept_unbounded, ← utf8Bytes_join, join_reportPieces]

/-- **A colored report can be read back.** Two lists of legible sections are written as the same
bytes only if they are the same list: the same files with the same statuses, and in each file the
same tests with the same outcomes and places. -/
theorem coloredReport_inj (h : ∀ report ∈ reports, report.Legible)
    (h' : ∀ report ∈ reports', report.Legible) :
    (Sink.unbounded.accept ((reportPieces .colored reports).map utf8Bytes)).1 =
        (Sink.unbounded.accept ((reportPieces .colored reports').map utf8Bytes)).1 ↔
      reports = reports' := by
  have hlegible : ∀ {reports : List FileReport}, (∀ report ∈ reports, report.Legible) →
      ∀ l ∈ reportLines reports, l.Legible := by
    intro reports hreports l hl
    obtain ⟨report, hreport, hl⟩ := List.mem_flatMap.1 hl
    exact (hreports report hreport).legible_of_mem_lines hl
  constructor
  · intro hbytes
    rw [accept_reportPieces, accept_reportPieces, utf8Bytes_inj] at hbytes
    have hlines : reportLines reports = reportLines reports' :=
      lines_unique (hlegible h) (hlegible h') hbytes
    exact segments_unique hlines (fun report _ => report.isSegment_lines)
      (fun report _ => report.isSegment_lines)
      fun report hreport report' hreport' => (h report hreport).lines_inj (h' report' hreport')
  · rintro rfl
    rfl

/-- A covered test, whose label has a line feed in it, and an uncovered one. -/
def coveredReport : FileReport :=
  ⟨"test_a.py", .uncovered, [⟨"test_x", .covered ⟨"a:'b'.ts", "one\ntwo"⟩⟩, ⟨"test_y", .uncovered⟩]⟩

/-- Two uncovered tests, the first with a name that reads like a covered test and its place. -/
def uncoveredReport : FileReport :=
  ⟨"test_a.py", .uncovered,
    [⟨"test_x\n |  |  a:'b'.ts:'one\ntwo'", .uncovered⟩, ⟨"test_y", .uncovered⟩]⟩

/-- The two are one page in plain, and two in color. -/
theorem coloredReport_inj_covered :
    coveredReport.Legible ∧ uncoveredReport.Legible ∧
      (Sink.unbounded.accept ((reportPieces .plain [coveredReport]).map utf8Bytes)).1 =
        (Sink.unbounded.accept ((reportPieces .plain [uncoveredReport]).map utf8Bytes)).1 ∧
      (Sink.unbounded.accept ((reportPieces .colored [coveredReport]).map utf8Bytes)).1 ≠
        (Sink.unbounded.accept ((reportPieces .colored [uncoveredReport]).map utf8Bytes)).1 := by
  have hcovered : coveredReport.Legible := by
    refine ⟨⟨?_, ?_, ?_⟩, ?_, ?_, ?_⟩ <;> simp [coveredReport, NoEscape]
  have huncovered : uncoveredReport.Legible := by
    refine ⟨⟨?_, ?_, ?_⟩, ?_, ?_, ?_⟩ <;> simp [uncoveredReport, NoEscape]
  refine ⟨hcovered, huncovered, by decide +kernel, fun hbytes => ?_⟩
  have heq := (coloredReport_inj (by simpa using hcovered) (by simpa using huncovered)).1 hbytes
  exact absurd heq (by decide)

/-- With a quote in a label, what is named by a line is no longer told. -/
example :
    (Sink.unbounded.accept ((reportPieces .colored
        [⟨"test_a.py", .covered, [⟨"test_x", .covered ⟨"a:'b", "c"⟩⟩]⟩]).map utf8Bytes)).1 =
      (Sink.unbounded.accept ((reportPieces .colored
        [⟨"test_a.py", .covered, [⟨"test_x", .covered ⟨"a", "b:'c"⟩⟩]⟩]).map utf8Bytes)).1 := by
  decide +kernel

end SuiteAudit
