import SuiteAudit.Report.Layout
import Mathlib.Data.List.Basic
/-!
# Report — the lines on paper

A layout hands its pieces to the sink one by one and does not say where a line
ends. Here the report is read as a list of lines, each with what it is about, its
color and its text: a header for each file, a line for each test below it, and
below a covered test a line for the place that covers it. `join_reportPieces` says
that the pieces spell these lines, and `count_newline_join_written` that as many line
feeds are written as there are lines, those inside their texts apart.
-/

namespace SuiteAudit

/-- What a line of the report is about. -/
inductive LineRole where
  /-- A reference file. -/
  | header
  /-- A test of the file. -/
  | test
  /-- The place that covers the test. -/
  | place
  /-- The totals below the sections. -/
  | totals
deriving Repr, DecidableEq

/-- A line of the report. -/
structure ReportLine where
  role : LineRole
  color : Color
  text : String
deriving Repr, DecidableEq

/-- A line as it is written: on a colored sink it is reset, colored, and reset again before it
ends. -/
def ReportLine.written (palette : Palette) (line : ReportLine) : String :=
  match palette with
  | .plain => line.text ++ "\n"
  | .colored => "\x1b[0m" ++ line.color.sequence ++ line.text ++ "\x1b[0m" ++ "\n"

/-- The lines of a test, in the color of its outcome. -/
def TestLine.lines (line : TestLine) : List ReportLine :=
  match line.outcome with
  | .ignored => [⟨.test, .yellow, " |  " ++ line.test⟩]
  | .covered place => [⟨.test, .green, " |  " ++ line.test⟩,
      ⟨.place, .green, " |  |  " ++ place.file ++ ":'" ++ place.label ++ "'"⟩]
  | .uncovered => [⟨.test, .red, " |  " ++ line.test⟩]

/-- The lines of a section: its header, in the color of the file, and the lines of its tests. -/
def FileReport.lines (report : FileReport) : List ReportLine :=
  ⟨.header, report.status.color, report.file⟩ :: report.tests.flatMap TestLine.lines

/-- The line of the totals, in the color of the worst status counted. -/
def Summary.line (summary : Summary) : ReportLine :=
  ⟨.totals, summary.status.color, summary.text⟩

/-- The lines of a report. -/
def reportLines (reports : List FileReport) : List ReportLine :=
  reports.flatMap FileReport.lines

/-! ## The pieces spell the lines -/

variable {palette : Palette}

theorem join_linePieces (role : LineRole) (status : Status) (text : String) :
    String.join (linePieces palette status text) =
      ReportLine.written palette ⟨role, status.color, text⟩ := by
  cases palette with
  | plain => simp [linePieces, ReportLine.written]
  | colored => simp [linePieces, ReportLine.written, resetSequence, String.append_assoc]

theorem TestLine.join_pieces (line : TestLine) :
    String.join (line.pieces palette) =
      String.join (line.lines.map (ReportLine.written palette)) := by
  obtain ⟨test, outcome⟩ := line
  cases outcome with
  | ignored =>
    rw [pieces, String.join_append, join_linePieces .test]
    simp [lines, text, Outcome.status, Status.color]
  | uncovered =>
    rw [pieces, String.join_append, join_linePieces .test]
    simp [lines, text, Outcome.status, Status.color]
  | covered place =>
    rw [pieces, String.join_append, join_linePieces .test, join_linePieces .place]
    simp [lines, text, Coverage.text, Outcome.status, Status.color]

/-- Joining piece by piece what is spelled alike. -/
theorem join_flatMap_congr {α : Type} {xs : List α} {f g : α → List String}
    (h : ∀ x ∈ xs, String.join (f x) = String.join (g x)) :
    String.join (xs.flatMap f) = String.join (xs.flatMap g) := by
  induction xs with
  | nil => rfl
  | cons x xs ih =>
    rw [List.flatMap_cons, List.flatMap_cons, String.join_append, String.join_append,
      h x (by simp), ih fun y hy => h y (by simp [hy])]

theorem FileReport.join_pieces (report : FileReport) :
    String.join (report.pieces palette) =
      String.join (report.lines.map (ReportLine.written palette)) := by
  rw [pieces, lines, String.join_append, join_linePieces .header, List.map_cons, String.join_cons,
    List.map_flatMap]
  rw [join_flatMap_congr fun line _ => line.join_pieces]

/-- **The pieces of a report spell its lines.** -/
theorem join_reportPieces (reports : List FileReport) :
    String.join (reportPieces palette reports) =
      String.join ((reportLines reports).map (ReportLine.written palette)) := by
  rw [reportPieces, reportLines, List.map_flatMap]
  exact join_flatMap_congr fun report _ => report.join_pieces

theorem Summary.join_pieces (summary : Summary) :
    String.join (summary.pieces palette) = summary.line.written palette := by
  rw [pieces, join_linePieces .totals, line]

/-! ## Line feeds -/

/-- A written line ends with a line feed, and has no other one but those of its text. -/
theorem ReportLine.count_newline_written (line : ReportLine) :
    (line.written palette).toList.count '\n' = line.text.toList.count '\n' + 1 := by
  have hcolor : line.color.sequence.toList.count '\n' = 0 := by
    cases line.color <;> decide
  cases palette with
  | plain => simp [written]
  | colored => simp [written, hcolor]

/-- **As many line feeds are written as there are lines**, those inside their texts apart. -/
theorem count_newline_join_written (lines : List ReportLine) :
    (String.join (lines.map (ReportLine.written palette))).toList.count '\n' =
      lines.length + (String.join (lines.map (·.text))).toList.count '\n' := by
  induction lines with
  | nil => rfl
  | cons line lines ih =>
    rw [List.map_cons, String.join_cons, String.toList_append, List.count_append, ih,
      line.count_newline_written, List.length_cons, List.map_cons, String.join_cons,
      String.toList_append, List.count_append]
    omega

end SuiteAudit
