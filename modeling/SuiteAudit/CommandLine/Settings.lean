import SuiteAudit.Report.Layout
import SuiteAudit.Suite.Scan
/-!
# Command line — what an audit is asked to do

The settings of one audit: where the two suites are, how their files are told
from others, and what is printed and how.
-/

namespace SuiteAudit

/-- When lines are written in color. -/
inductive ColorMode where
  /-- When the output is a terminal. -/
  | auto
  | always
  | never
deriving Repr, DecidableEq, Inhabited

namespace ColorMode

/-- All color modes. -/
def all : List ColorMode :=
  [.auto, .always, .never]

/-- The name of a color mode. -/
def name : ColorMode → String
  | auto => "auto"
  | always => "always"
  | never => "never"

/-- The color mode of a name. -/
def ofName? (name : String) : Option ColorMode :=
  all.find? (·.name == name)

/-- Every color mode is found by its name. -/
@[simp] theorem ofName?_name (mode : ColorMode) : ofName? mode.name = some mode := by
  cases mode <;> rfl

/-- Whether lines are colored where the output is no terminal. -/
def palette : ColorMode → Palette
  | always => .colored
  | auto | never => .plain

/-- The color mode that has the same effect elsewhere as this one has on a terminal. -/
def onTerminal : ColorMode → ColorMode
  | auto => always
  | mode => mode

end ColorMode

/-- The settings of an audit. A path is one of the disk, and need not be text. -/
structure Settings where
  /-- The directory of the reference suite. -/
  referencePath : Path
  /-- The directory of the comparison suite. -/
  comparisonPath : Path
  /-- A list of names to ignore in place of the builtin ones. -/
  ignorePath : Option Path
  /-- How the names of reference files begin. -/
  referencePrefix : String
  /-- What the names of comparison files contain. -/
  comparisonInfix : String
  /-- Whether files are visited in the order of their names. -/
  sorted : Bool
  color : ColorMode
  /-- Whether totals are printed below the report. -/
  summary : Bool
  /-- Whether an uncovered test makes the audit fail. -/
  strict : Bool
  /-- Whether progress is noted. -/
  verbose : Bool
deriving Repr, DecidableEq, Inhabited

namespace Settings

/-- The directory of the reference suite as it is shown. -/
def referenceDir (settings : Settings) : String :=
  settings.referencePath.shown

/-- The directory of the comparison suite as it is shown. -/
def comparisonDir (settings : Settings) : String :=
  settings.comparisonPath.shown

/-- The list of names to ignore as it is shown, if one is set. -/
def ignoreFile (settings : Settings) : Option String :=
  settings.ignorePath.map Path.shown

/-- The order in which the files of the suites are visited. -/
def order (settings : Settings) : ListingOrder :=
  if settings.sorted then .byName else .asListed

end Settings

end SuiteAudit
