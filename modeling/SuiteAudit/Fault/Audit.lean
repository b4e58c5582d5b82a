import SuiteAudit.Disk.Access
import SuiteAudit.Text.Wrap
import SuiteAudit.Yaml.TextList
/-!
# Faults — why an audit cannot be carried out

Each fault has a message, a code, the chain of causes behind it with the
outermost first, and for some faults a word of help. Its report has all of them,
the causes under each other, filled into lines of the width of a page.
-/

namespace SuiteAudit

/-- Why an audit stopped. -/
inductive AuditFault where
  /-- The directory of a suite cannot be listed. -/
  | listSuite (path : Path) (cause : DiskFault)
  /-- A file of a suite cannot be read. -/
  | readSuiteFile (path : Path) (cause : DiskFault)
  /-- The ignore list cannot be read. -/
  | readIgnoreList (path : Path) (cause : DiskFault)
  /-- The ignore list is no list of names. -/
  | parseIgnoreList (path : Path) (cause : Yaml.ListFault)
  /-- The report cannot be written. -/
  | write (cause : DiskFault)
deriving Repr, DecidableEq, Inhabited

namespace AuditFault

/-- The message of a fault. -/
def message : AuditFault → String
  | listSuite path _ => "Failed to list suite directory '" ++ path.shown ++ "'"
  | readSuiteFile path _ => "Failed to read test file '" ++ path.shown ++ "'"
  | readIgnoreList path _ => "Failed to read ignore list '" ++ path.shown ++ "'"
  | parseIgnoreList path _ =>
    "Ignore list '" ++ path.shown ++ "' is not a sequence of test names"
  | write _ => "Failed to write the coverage report"

/-- The code of a fault. -/
def code : AuditFault → String
  | listSuite _ _ => "crosscheck::fs::list"
  | readSuiteFile _ _ => "crosscheck::fs::read"
  | readIgnoreList _ _ => "crosscheck::ignore::read"
  | parseIgnoreList _ _ => "crosscheck::ignore::parse"
  | write _ => "crosscheck::output"

/-- The help for a fault. -/
def help? : AuditFault → Option String
  | listSuite _ _ => some "check that the directory exists and is readable"
  | parseIgnoreList _ _ =>
    some "write one entry per line, e.g. `- test_convert_with_empty_set`"
  | _ => none

/-- The causes of a fault, outermost first. -/
def causes : AuditFault → List String
  | listSuite path cause =>
    ["IO error for operation on " ++ path.shown ++ ": " ++ cause.message, cause.message]
  | readSuiteFile _ cause => [cause.message]
  | readIgnoreList _ cause => [cause.message]
  | parseIgnoreList _ cause => [cause.message]
  | write cause => [cause.message]

/-! ## The report of a fault -/

/-- The width of the lines of a report. -/
def pageWidth : Nat := 78

/-- The margins of a message. -/
def messageMargins : Text.Margins := ⟨"  × ", "  │ "⟩

/-- The margins of a cause that another one follows. -/
def causeMargins : Text.Margins := ⟨"  ├─▶ ", "  │   "⟩

/-- The margins of the last cause. -/
def lastCauseMargins : Text.Margins := ⟨"  ╰─▶ ", "      "⟩

/-- The margins of the help. -/
def helpMargins : Text.Margins := ⟨"  help: ", "        "⟩

/-- A text on its lines, the last of them ended as well. -/
def paragraph (margins : Text.Margins) (text : String) : String :=
  Text.fill pageWidth margins text ++ "\n"

/-- The causes of a fault on their lines. -/
def causeLines : List String → String
  | [] => ""
  | [cause] => paragraph lastCauseMargins cause
  | cause :: causes => paragraph causeMargins cause ++ causeLines causes

/-- The report of a fault. -/
def report (fault : AuditFault) : String :=
  fault.code ++ "\n\n" ++ paragraph messageMargins fault.message ++ causeLines fault.causes ++
    (fault.help?.elim "" (paragraph helpMargins)) ++ "\n"

end AuditFault

end SuiteAudit
