import SuiteAudit.CommandLine.Message
/-!
# Command line — help

Help lists every option with what it is for and where its value comes from when
it is not given. The short form has a line for each option, the long form a
section. The names of the options are styled, and what stands between them is
plain.
-/

namespace SuiteAudit

/-- What the program is for. -/
def programPurpose : String :=
  "Reports reference-suite tests that have no counterpart in a comparison suite."

/-- The version of the program. -/
def versionText : String :=
  programName ++ " 0.1.0\n"

/-- What a color mode is for, where its name does not tell. -/
def ColorMode.purpose? : ColorMode → Option String
  | auto => some "Color when stdout is a terminal"
  | _ => none

namespace Help

/-- What an option is for. Asking for help either way tells of the other way. -/
def purpose (long : Bool) : CommandOption → String
  | .value .referenceDir => "Directory of the reference suite"
  | .value .comparisonDir => "Directory of the comparison suite"
  | .value .ignoreFile =>
    "YAML list of test names to report as ignored, replacing the built-in list"
  | .value .referencePrefix => "Reference files are those whose name starts with this prefix"
  | .value .comparisonInfix => "Comparison files are those whose name contains this marker"
  | .value .color => ""
  | .flag .sorted => "Visit suite files in name order instead of filesystem order"
  | .flag .summary => "Print totals after the report"
  | .flag .strict => "Exit with status 1 if any test is uncovered"
  | .flag .verbose => "Print progress notes to stderr"
  | .flag .help =>
    if long then "Print help (see a summary with '-h')" else "Print help (see more with '--help')"
  | .flag .version => "Print version"

/-- The note of the variable of the environment that an option falls back to. -/
def variableNote (name : String) (value : Option String) : String :=
  "[env: " ++ name ++ "=" ++ value.getD "" ++ "]"

/-- The note of the value that an option has when it is not given. -/
def defaultNote (value : String) : String :=
  "[default: " ++ value ++ "]"

/-- Where the value of an option comes from when it is not given. -/
def source? (environment : Environment) : CommandOption → Option String
  | .value .referenceDir =>
    some (variableNote Environment.referenceVariable environment.referenceDir)
  | .value .comparisonDir =>
    some (variableNote Environment.comparisonVariable environment.comparisonDir)
  | .value .referencePrefix => some (defaultNote defaultReferencePrefix)
  | .value .comparisonInfix => some (defaultNote defaultComparisonInfix)
  | .value .color => some (defaultNote ColorMode.auto.name)
  | _ => none

/-- A number of blanks. -/
def blanks (width : Nat) : String :=
  String.ofList (List.replicate width ' ')

/-- A text made at least so wide by blanks behind it. -/
def padded (width : Nat) (text : String) : String :=
  text ++ blanks (width - text.length)

/-- Lines under each other, all but the first behind so many blanks. -/
def indented (width : Nat) (text : String) : String :=
  String.ofList (text.toList.flatMap fun c =>
    if c == '\n' then c :: List.replicate width ' ' else [c])

/-- The letter of an option, or blanks in place of it. -/
def letter : CommandOption → List Text.Part
  | .flag flag =>
    match flag.letter? with
    | some letter => [.plain "  ", .styled ("-" ++ letter.toString), .plain ", "]
    | none => [.plain (blanks 6)]
  | .value _ => [.plain (blanks 6)]

/-- An option with its letter, as help shows it. -/
def heading (option : CommandOption) : List Text.Part :=
  letter option ++ [.styled option.shown]

/-- The width of the widest option. -/
def widest : Nat :=
  (CommandOption.all.map (·.shown.length)).foldl max 0

/-- The notes of an option on its line. -/
def notes (environment : Environment) (option : CommandOption) : List String :=
  (source? environment option).toList ++
    if option = .value .color then [possibleColors] else []

/-- The line of an option in the short form. -/
def line (environment : Environment) (option : CommandOption) : List Text.Part :=
  let texts := ([purpose false option] ++ notes environment option).filter (· ≠ "")
  heading option ++
    [.plain (blanks (widest + 2 - option.shown.length) ++
      indented (widest + 8) (" ".intercalate texts) ++ "\n")]

/-- A color mode in the list of those possible. -/
def modeLine (mode : ColorMode) : String :=
  match mode.purpose? with
  | some purpose => "\n- " ++ padded 8 (mode.name ++ ":") ++ purpose
  | none => "\n- " ++ mode.name

/-- The text on an option in the long form. -/
def details (option : CommandOption) : String :=
  if option = .value .color then
    "Possible values:" ++ String.join (ColorMode.all.map modeLine)
  else purpose true option

/-- The section of an option in the long form. -/
def sectionText (environment : Environment) (option : CommandOption) : List Text.Part :=
  let texts := details option :: (source? environment option).toList
  heading option ++
    [.plain ("\n" ++ blanks 10 ++ indented 10 ("\n\n".intercalate texts) ++ "\n")]

/-- What stands above the options. -/
def opening : String :=
  programPurpose ++ "\n\nUsage: " ++ Usage.full ++ "\n\nOptions:\n"

/-- Help in its short or its long form. -/
def text (environment : Environment) (long : Bool) : String :=
  opening ++
    Text.shownParts
      (if long then [.plain "\n"].intercalate (CommandOption.all.map (sectionText environment))
      else CommandOption.all.flatMap (line environment))

end Help

/-- What is printed when no audit follows from a command line. -/
def Halt.message (environment : Environment) : Halt → String
  | help long => Help.text environment long
  | version => versionText
  | rejected rejection => rejection.message

/-- Whether a command line was refused. -/
def Halt.isRejected : Halt → Bool
  | rejected _ => true
  | _ => false

/-- The exit code when no audit follows from a command line. -/
def Halt.exitCode (halt : Halt) : Nat :=
  if halt.isRejected then 2 else 0

end SuiteAudit
