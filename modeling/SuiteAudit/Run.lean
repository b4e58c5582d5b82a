import SuiteAudit.CommandLine.Settings
import SuiteAudit.IgnoreFile
import SuiteAudit.Report.Layout
import SuiteAudit.Sink
/-!
# Run — one audit from settings to exit code

An audit loads three things in a fixed order: the ignore list, the reference
suite, the comparison suite. The first that fails ends the run before anything
of the report is written. Otherwise the report is written to the sink, and a
strict run fails when a test is uncovered.
-/

namespace SuiteAudit

/-- What an audit works on once everything is loaded. -/
structure Loaded where
  ignored : IgnoreSet
  reference : List ReferenceFile
  comparison : List ComparisonFile

/-- Notes of progress, and what an audit works on or why it stopped. -/
structure Loading where
  notes : List String
  result : Except AuditFault Loaded

/-- The note that the names to ignore are loaded. -/
def ignoredNote (ignored : IgnoreSet) : String :=
  toString ignored.size ++ " ignored test names"

/-- The note that the files of a suite are loaded. -/
def suiteNote (suite : String) (count : Nat) (dir : String) : String :=
  toString count ++ " " ++ suite ++ " files in " ++ dir

section

variable {m : Type → Type} [Monad m] (disk : DiskAccess m)

/-- The names to ignore: those of the ignore file if one is set, else the builtin ones. -/
def Settings.loadIgnored (settings : Settings) : m (Except AuditFault IgnoreSet) :=
  match settings.ignorePath with
  | some path => IgnoreSet.ofFile disk path
  | none => return .ok .builtin

/-- The files of the reference suite. -/
def Settings.loadReference (settings : Settings) : m (Except AuditFault (List ReferenceFile)) :=
  scanReference disk settings.order settings.referencePrefix settings.referencePath

/-- The files of the comparison suite. -/
def Settings.loadComparison (settings : Settings) : m (Except AuditFault (List ComparisonFile)) :=
  scanComparison disk settings.order settings.comparisonInfix settings.comparisonPath

/-- Loads what an audit works on, with a note for each thing that was loaded. -/
def Settings.load (settings : Settings) : m Loading := do
  match ← settings.loadIgnored disk with
  | .error fault => return ⟨[], .error fault⟩
  | .ok ignored =>
    let notes := [ignoredNote ignored]
    match ← settings.loadReference disk with
    | .error fault => return ⟨notes, .error fault⟩
    | .ok reference =>
      let notes := notes ++ [suiteNote "reference" reference.length settings.referenceDir]
      match ← settings.loadComparison disk with
      | .error fault => return ⟨notes, .error fault⟩
      | .ok comparison =>
        let notes := notes ++ [suiteNote "comparison" comparison.length settings.comparisonDir]
        return ⟨notes, .ok ⟨ignored, reference, comparison⟩⟩

end

/-- The sections of the report. -/
def Loaded.reports (loaded : Loaded) : List FileReport :=
  evaluate loaded.ignored loaded.reference loaded.comparison

/-- The totals of an audit. -/
def Loaded.summary (loaded : Loaded) : Summary :=
  Summary.ofReports loaded.reports

/-- The pieces of the output of an audit: the report, and the totals if they are asked for. -/
def Loaded.pieces (settings : Settings) (loaded : Loaded) : List String :=
  reportPieces settings.color.palette loaded.reports ++
    if settings.summary then loaded.summary.pieces settings.color.palette else []

/-- Whether an audit fails although it was carried out. -/
def Loaded.isRefused (settings : Settings) (loaded : Loaded) : Bool :=
  settings.strict && decide (0 < loaded.summary.uncovered)

/-- What an audit leaves behind. -/
structure AuditRun where
  /-- Notes of progress, in order. They are shown on request only. -/
  notes : List String
  /-- The bytes that the sink took. -/
  output : List UInt8
  /-- Why the audit stopped, if it did. -/
  fault : Option AuditFault
  exitCode : Nat
deriving Repr

/-- Writes the report on what was loaded. -/
def Loaded.write (settings : Settings) (sink : Sink) (notes : List String) (loaded : Loaded) :
    AuditRun :=
  match sink.accept ((loaded.pieces settings).map Text.utf8Bytes) with
  | (output, some cause) => ⟨notes, output, some (.write cause), 1⟩
  | (output, none) => ⟨notes, output, none, if loaded.isRefused settings then 1 else 0⟩

/-- Carries out an audit. -/
def audit {m : Type → Type} [Monad m] (disk : DiskAccess m) (settings : Settings) (sink : Sink) :
    m AuditRun := do
  match ← settings.load disk with
  | ⟨notes, .error fault⟩ => return ⟨notes, [], some fault, 1⟩
  | ⟨notes, .ok loaded⟩ => return loaded.write settings sink notes

end SuiteAudit
