import SuiteAudit.Report
/-!
# Report — the layout on paper

A section is a header with the name of the reference file, a line for each test
below it, and under each covered test a line for the place that covers it:

    test_models
     |  test_alpha
     |  |  models.spec:'parses alpha'
     |  test_beta

A layout is a list of pieces, in the order in which they are handed to the
sink. A colored line turns the color on and off by itself, so that every line
stands alone.
-/

namespace SuiteAudit

/-- Whether lines are written in color. -/
inductive Palette where
  | plain
  | colored
deriving Repr, DecidableEq, Inhabited

/-- The number of a color in a color sequence. -/
def Color.number : Color → Nat
  | red => 31
  | green => 32
  | yellow => 33

/-- The sequence that gives up every color and weight. -/
def resetSequence : String :=
  "\x1b[0m"

/-- The sequence that turns a color on. -/
def Color.sequence (color : Color) : String :=
  "\x1b[" ++ toString color.number ++ "m"

/-- One line in the color of its status. -/
def linePieces (palette : Palette) (status : Status) (text : String) : List String :=
  match palette with
  | .plain => [text, "\n"]
  | .colored => [resetSequence, status.color.sequence, text, resetSequence, "\n"]

/-- The line of a test. -/
def TestLine.text (line : TestLine) : String :=
  " |  " ++ line.test

/-- The line of the place that covers a test. -/
def Coverage.text (place : Coverage) : String :=
  " |  |  " ++ place.file ++ ":'" ++ place.label ++ "'"

/-- A test, and under it the place that covers it if there is one. -/
def TestLine.pieces (palette : Palette) (line : TestLine) : List String :=
  linePieces palette line.outcome.status line.text ++
    match line.outcome with
    | .covered place => linePieces palette line.outcome.status place.text
    | _ => []

/-- A section: the header in the color of the file, then its tests. -/
def FileReport.pieces (palette : Palette) (report : FileReport) : List String :=
  linePieces palette report.status report.file ++ report.tests.flatMap (·.pieces palette)

/-- The text of the totals. -/
def Summary.text (summary : Summary) : String :=
  toString summary.files ++ " files, " ++ toString summary.covered ++ " covered, " ++
    toString summary.ignored ++ " ignored, " ++ toString summary.uncovered ++ " uncovered"

/-- The line of the totals, in the color of the worst status counted. -/
def Summary.pieces (palette : Palette) (summary : Summary) : List String :=
  linePieces palette summary.status summary.text

/-- All sections of a report in order. -/
def reportPieces (palette : Palette) (reports : List FileReport) : List String :=
  reports.flatMap (·.pieces palette)

end SuiteAudit
