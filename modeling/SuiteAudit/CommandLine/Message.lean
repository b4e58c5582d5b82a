import SuiteAudit.CommandLine.Rejection
import SuiteAudit.CommandLine.Settings
import SuiteAudit.Text.Similarity
import SuiteAudit.Text.Terminal
/-!
# Command line — messages of rejection

A message has the reason, then a tip and a usage line where they help, and the
way to the help. What was written on the command line stands in it as a terminal
shows it: it has a style of its own there, so a command that it leaves open does
not reach behind it.
-/

namespace SuiteAudit

/-- The names of the color modes, as a list of what is possible. -/
def possibleColors : String :=
  "[possible values: " ++ ", ".intercalate (ColorMode.all.map (·.name)) ++ "]"

/-- The line of what is possible for an option, if only some values are. -/
def ValueOption.possible : ValueOption → String
  | color => "\n  " ++ possibleColors
  | _ => ""

namespace Rejection

/-- What was written on the command line, as a message shows it. -/
def written (text : String) : String :=
  "'" ++ Text.shown text ++ "'"

/-- The reason of a rejection. -/
def reason : Rejection → String
  | missingOptions missing _ =>
    "the following required arguments were not provided:" ++
      String.join (missing.map fun option => "\n  " ++ CommandOption.shown (.value option))
  | missingValue option =>
    "a value is required for '" ++ CommandOption.shown (.value option) ++
      "' but none was supplied" ++ option.possible
  | unknownColor text =>
    "invalid value " ++ written text ++ " for '" ++ CommandOption.shown (.value .color) ++ "'" ++
      ValueOption.color.possible
  | repeated option => "the argument '" ++ option.shown ++ "' cannot be used multiple times"
  | unneededValue flag text _ =>
    "unexpected value " ++ written text ++ " for '" ++ CommandOption.shown (.flag flag) ++
      "' found; no more were expected"
  | unknownName name _ _ => "unexpected argument " ++ written ("--" ++ name) ++ " found"
  | unknownLetter letter => "unexpected argument " ++ written ("-" ++ letter.toString) ++ " found"
  | stray text => "unexpected argument " ++ written text ++ " found"

/-- What may have been meant. -/
def tip? : Rejection → Option String
  | unknownName _ _ (some option) =>
    some ("a similar argument exists: '--" ++ option.name ++ "'")
  | unknownColor text =>
    (Text.mostSimilar? ColorMode.name text ColorMode.all).map fun mode =>
      "a similar value exists: '" ++ mode.name ++ "'"
  | _ => none

/-- The usage line of a rejection. A value that is missing or unknown has none. -/
def usage? : Rejection → Option String
  | missingOptions _ given => some (Usage.naming given)
  | missingValue _ => none
  | unknownColor _ => none
  | repeated _ => some Usage.full
  | unneededValue flag _ first => some (Usage.unneeded flag first)
  | unknownName _ given similar => some (Usage.after (given ++ similar.toList))
  | unknownLetter _ => some Usage.full
  | stray _ => some Usage.full

/-- The whole message of a rejection. -/
def message (rejection : Rejection) : String :=
  "error: " ++ rejection.reason ++ "\n\n" ++
    (rejection.tip?.elim "" fun tip => "  tip: " ++ tip ++ "\n\n") ++
    (rejection.usage?.elim "" fun usage => "Usage: " ++ usage ++ "\n\n") ++
    "For more information, try '--help'.\n"

end Rejection

end SuiteAudit
