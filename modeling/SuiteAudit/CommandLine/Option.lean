/-!
# Command line — the options

An option either takes a value or is a flag. Every option has a long name, and
some flags have a letter too. `CommandOption.all` lists them in the order in
which help shows them.

A usage line comes in three forms: the full one, the one that names the
required options and some others, and the one that names the options that set
something as alternatives.
-/

namespace SuiteAudit

/-- An option that takes a value. -/
inductive ValueOption where
  | referenceDir
  | comparisonDir
  | ignoreFile
  | referencePrefix
  | comparisonInfix
  | color
deriving Repr, DecidableEq, Inhabited

/-- An option that is given or not. -/
inductive Flag where
  | sorted
  | summary
  | strict
  | verbose
  | help
  | version
deriving Repr, DecidableEq, Inhabited

/-- An option of the command line. -/
inductive CommandOption where
  | value (option : ValueOption)
  | flag (flag : Flag)
deriving Repr, DecidableEq, Inhabited

/-- The name of an option without its dashes. -/
def ValueOption.name : ValueOption → String
  | referenceDir => "reference-dir"
  | comparisonDir => "comparison-dir"
  | ignoreFile => "ignore-file"
  | referencePrefix => "reference-prefix"
  | comparisonInfix => "comparison-infix"
  | color => "color"

/-- The word that stands for the value of an option. -/
def ValueOption.placeholder : ValueOption → String
  | referenceDir => "DIR"
  | comparisonDir => "DIR"
  | ignoreFile => "FILE"
  | referencePrefix => "PREFIX"
  | comparisonInfix => "INFIX"
  | color => "COLOR"

/-- The options without which nothing can be audited. -/
def ValueOption.required : List ValueOption :=
  [.referenceDir, .comparisonDir]

/-- The name of a flag without its dashes. -/
def Flag.name : Flag → String
  | sorted => "sorted"
  | summary => "summary"
  | strict => "strict"
  | verbose => "verbose"
  | help => "help"
  | version => "version"

/-- The letter of a flag, if it has one. -/
def Flag.letter? : Flag → Option Char
  | verbose => some 'v'
  | help => some 'h'
  | version => some 'V'
  | _ => none

/-- All flags. -/
def Flag.all : List Flag :=
  [.sorted, .summary, .strict, .verbose, .help, .version]

/-- The flag of a letter. -/
def Flag.ofLetter? (letter : Char) : Option Flag :=
  all.find? fun flag => flag.letter? == some letter

namespace CommandOption

/-- All options, in the order in which they are shown. -/
def all : List CommandOption :=
  [.value .referenceDir, .value .comparisonDir, .value .ignoreFile, .value .referencePrefix,
    .value .comparisonInfix, .flag .sorted, .value .color, .flag .summary, .flag .strict,
    .flag .verbose, .flag .help, .flag .version]

/-- The name of an option without its dashes. -/
def name : CommandOption → String
  | value option => option.name
  | flag f => f.name

/-- The option of a long name. -/
def ofName? (name : String) : Option CommandOption :=
  all.find? (·.name == name)

/-- An option as it is written, with a word in place of its value. -/
def shown : CommandOption → String
  | value option => "--" ++ option.name ++ " <" ++ option.placeholder ++ ">"
  | flag f => "--" ++ f.name

/-- Every option is found by its name. -/
@[simp] theorem ofName?_name (option : CommandOption) : ofName? option.name = some option := by
  cases option with
  | value option => cases option <;> rfl
  | flag f => cases f <;> rfl

end CommandOption

/-! ## Usage lines -/

/-- The name of the program. -/
def programName : String := "crosscheck"

namespace Usage

/-- Pieces of a line with blanks between them. -/
def line (pieces : List String) : String :=
  " ".intercalate pieces

/-- The required options as they are written. -/
def required : List String :=
  ValueOption.required.map fun option => CommandOption.shown (.value option)

/-- The usage line for all purposes. -/
def full : String :=
  line (programName :: "[OPTIONS]" :: required)

/-- The usage line that names the required options and those of a list, each once. -/
def naming (options : List CommandOption) : String :=
  line (programName :: (required ++ options.map (·.shown)).eraseDups)

/-- The usage line after some options were given: the full one if there were none. -/
def after (options : List CommandOption) : String :=
  if options.isEmpty then full else naming options

/-- Whether an option sets something. The others ask a question. -/
def isSetting : CommandOption → Bool
  | .flag .help => false
  | .flag .version => false
  | _ => true

/-- The options that set something, as alternatives. -/
def alternatives : String :=
  "<" ++ "|".intercalate ((CommandOption.all.filter isSetting).map (·.shown)) ++ ">"

/-- The usage line for a flag that was given a value. -/
def unneeded (flag : Flag) (first : Bool) : String :=
  if first then naming [.flag flag]
  else if isSetting (.flag flag) then line [programName, alternatives]
  else line [programName, CommandOption.shown (.flag flag), alternatives]

end Usage

end SuiteAudit
