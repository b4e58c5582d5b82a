import SuiteAudit.CommandLine.Option
/-!
# Command line — why it is not accepted

A command line is rejected for one reason, the first one met. A rejection keeps
what its message tells, which includes the options that were given before.
-/

namespace SuiteAudit

/-- The settings that the environment offers for options that are not given. -/
structure Environment where
  referenceDir : Option String
  comparisonDir : Option String
deriving Repr, DecidableEq, Inhabited

/-- The variable that holds the directory of the reference suite. -/
def Environment.referenceVariable : String := "PYTHON_TESTS_PATH"

/-- The variable that holds the directory of the comparison suite. -/
def Environment.comparisonVariable : String := "JAVASCRIPT_TESTS_PATH"

/-- Why a command line is rejected. -/
inductive Rejection where
  /-- Required options are given neither on the command line nor by the environment. -/
  | missingOptions (missing : List ValueOption) (given : List CommandOption)
  /-- An option has no value, or an empty one where that is none. -/
  | missingValue (option : ValueOption)
  /-- A color mode is none of those there are. -/
  | unknownColor (text : String)
  /-- An option is given twice. -/
  | repeated (option : CommandOption)
  /-- A flag is given a value. `first` says that no option came before it. -/
  | unneededValue (flag : Flag) (text : String) (first : Bool)
  /-- A long name is none of an option. There may be an option with a similar name. -/
  | unknownName (name : String) (given : List CommandOption) (similar : Option CommandOption)
  /-- A letter is none of a flag. -/
  | unknownLetter (letter : Char)
  /-- An argument belongs to no option. -/
  | stray (text : String)
deriving Repr, DecidableEq, Inhabited

/-- Why no audit follows from a command line. -/
inductive Halt where
  /-- Help was asked for, in its short or its long form. -/
  | help (long : Bool)
  /-- The version was asked for. -/
  | version
  | rejected (rejection : Rejection)
deriving Repr, DecidableEq, Inhabited

end SuiteAudit
