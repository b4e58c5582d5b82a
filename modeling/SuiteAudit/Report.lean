import SuiteAudit.Coverage
import SuiteAudit.IgnoreFile
import SuiteAudit.Status
import SuiteAudit.Suite.Reference
/-!
# Report — what the audit concludes

Each test of each reference file gets an outcome: ignored when it is on the
ignore list, else covered when some comparison test names it, else uncovered.
The status of a file is the worst status of its tests, and the summary counts
files and outcomes.
-/

namespace SuiteAudit

/-- What the audit concludes about one reference test. -/
inductive Outcome where
  | ignored
  | covered (place : Coverage)
  | uncovered
deriving Repr, DecidableEq, Inhabited

/-- The status that an outcome stands for. -/
def Outcome.status : Outcome → Status
  | ignored => .ignored
  | covered _ => .covered
  | uncovered => .uncovered

/-- A reference test with its outcome. -/
structure TestLine where
  test : String
  outcome : Outcome
deriving Repr, DecidableEq, Inhabited

/-- The section of the report for one reference file. -/
structure FileReport where
  file : String
  status : Status
  tests : List TestLine
deriving Repr, DecidableEq, Inhabited

/-- The outcome of a test. The ignore list comes first: an ignored test is not looked up. -/
def outcomeOf (ignored : IgnoreSet) (index : CoverageIndex) (test : String) : Outcome :=
  if ignored.contains test then .ignored
  else
    match index.lookup? test with
    | some place => .covered place
    | none => .uncovered

/-- The lines of a reference file, with its repetitions and in its order. -/
def testLines (ignored : IgnoreSet) (index : CoverageIndex) (tests : List String) :
    List TestLine :=
  tests.map fun test => ⟨test, outcomeOf ignored index test⟩

/-- The section for one reference file. -/
def evaluateFile (ignored : IgnoreSet) (index : CoverageIndex) (file : ReferenceFile) :
    FileReport :=
  ⟨file.name, Status.worst ((testLines ignored index file.tests).map (·.outcome.status)),
    testLines ignored index file.tests⟩

/-- The whole report: one section per reference file, in order. -/
def evaluate (ignored : IgnoreSet) (reference : List ReferenceFile)
    (comparison : List ComparisonFile) : List FileReport :=
  reference.map (evaluateFile ignored (CoverageIndex.ofFiles comparison))

/-- Totals of a run. -/
structure Summary where
  files : Nat
  covered : Nat
  ignored : Nat
  uncovered : Nat
deriving Repr, DecidableEq, Inhabited

namespace Summary

/-- The totals of a list of reports. -/
def ofReports (reports : List FileReport) : Summary where
  files := reports.length
  covered := count .covered
  ignored := count .ignored
  uncovered := count .uncovered
where
  /-- How many lines of the reports have a status. -/
  count (status : Status) : Nat :=
    (reports.flatMap (·.tests)).countP fun line => line.outcome.status == status

/-- The worst status that was counted. -/
def status (summary : Summary) : Status :=
  if 0 < summary.uncovered then .uncovered
  else if 0 < summary.ignored then .ignored
  else .covered

end Summary

end SuiteAudit
