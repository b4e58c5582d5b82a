import SuiteAudit.CommandLine.Rejection
import SuiteAudit.CommandLine.Settings
import SuiteAudit.Text.Similarity
/-!
# Command line — reading the arguments

The arguments are read from the left. A value that stands apart from its option
is held back together with it, and both are settled when the next option comes
or the arguments end; so a fault of a value shows after a fault of a stray
argument behind it. What is settled is a list of assignments in the order in
which they were given.
-/

namespace SuiteAudit

/-- An argument by its form. -/
inductive Argument where
  /-- Two dashes: what follows is no option. -/
  | separator
  /-- Two dashes and a name, with a value behind an equals sign if there is one. -/
  | long (name : String) (value : Option String)
  /-- A dash and letters. -/
  | letters (letters : List Char)
  /-- Anything else. A single dash is one of these. -/
  | plain (text : String)
deriving Repr, DecidableEq, Inhabited

/-- What follows the first equals sign of a text. -/
def valuePart? (cs : List Char) : Option String :=
  match cs.dropWhile (· != '=') with
  | [] => none
  | _ :: value => some (String.ofList value)

/-- Tells the form of an argument. -/
def Argument.ofText (text : String) : Argument :=
  match text.toList with
  | ['-', '-'] => .separator
  | '-' :: '-' :: cs => .long (String.ofList (cs.takeWhile (· != '='))) (valuePart? cs)
  | '-' :: c :: cs => .letters (c :: cs)
  | _ => .plain text

/-- An option that was given, with its value if it takes one. -/
inductive Assignment where
  | value (option : ValueOption) (text : String)
  | flag (flag : Flag)
deriving Repr, DecidableEq, Inhabited

/-- The option of an assignment. -/
def Assignment.option : Assignment → CommandOption
  | value option _ => .value option
  | flag f => .flag f

/-- An option whose value stands apart, and the value if it was read. -/
structure Held where
  option : ValueOption
  text : Option String
deriving Repr, DecidableEq, Inhabited

/-- What was read of a command line. -/
structure Reading where
  /-- The assignments so far, in the order of the command line. -/
  settled : List Assignment
  held : Option Held
deriving Repr, DecidableEq, Inhabited

/-- Whether a text is a value of an option. Directories and files have names that are not empty. -/
def ValueOption.check (option : ValueOption) (text : String) : Except Rejection Unit :=
  match option with
  | referenceDir | comparisonDir | ignoreFile =>
    if text.isEmpty then .error (.missingValue option) else .ok ()
  | color =>
    if text.isEmpty then .error (.missingValue option)
    else if (ColorMode.ofName? text).isNone then .error (.unknownColor text)
    else .ok ()
  | referencePrefix | comparisonInfix => .ok ()

namespace Reading

/-- The reading before the first argument. -/
def start : Reading :=
  ⟨[], none⟩

/-- The options settled so far. -/
def options (reading : Reading) : List CommandOption :=
  reading.settled.map (·.option)

/-- Whether an option is settled. -/
def has (reading : Reading) (option : CommandOption) : Bool :=
  reading.options.contains option

/-- The value settled for an option. -/
def value? (reading : Reading) (option : ValueOption) : Option String :=
  reading.settled.findSome? fun
    | .value other text => if other = option then some text else none
    | .flag _ => none

/-- Adds an assignment. -/
def add (reading : Reading) (assignment : Assignment) : Reading :=
  { reading with settled := reading.settled ++ [assignment] }

/-- Adds the value of an option, which may be given once. -/
def addValue (reading : Reading) (option : ValueOption) (text : String) :
    Except Rejection Reading := do
  if reading.has (.value option) then
    .error (.repeated (.value option))
  else
    option.check text
    return reading.add (.value option text)

/-- Settles the option that is held back. -/
def settle (reading : Reading) : Except Rejection Reading :=
  match reading.held with
  | none => .ok reading
  | some ⟨option, none⟩ => .error (.missingValue option)
  | some ⟨option, some text⟩ => addValue { reading with held := none } option text

/-- The options that are shown as given where an unknown name ends the reading. An option that is
held back is among them once it has a value, and an option given twice is not. -/
def shownOptions (reading : Reading) : List CommandOption :=
  match reading.held with
  | some ⟨option, some _⟩ =>
    if reading.has (.value option) then reading.options.filter (· ≠ .value option)
    else reading.options ++ [.value option]
  | _ => reading.options

/-- Reads a flag. Help comes in its long form if it was asked for by its long name. -/
def readFlag (reading : Reading) (flag : Flag) (long : Bool) : Except Halt Reading := do
  let reading ← reading.settle.mapError .rejected
  match flag with
  | .help => .error (.help long)
  | .version => .error .version
  | _ =>
    if reading.has (.flag flag) then .error (.rejected (.repeated (.flag flag)))
    else return reading.add (.flag flag)

/-- Reads the letters behind a dash. -/
def readLetters (reading : Reading) : List Char → Except Halt Reading
  | [] => .ok reading
  | c :: cs =>
    match Flag.ofLetter? c with
    | some flag => do readLetters (← reading.readFlag flag false) cs
    | none => .error (.rejected (.unknownLetter c))

/-- Reads an argument with a long name. -/
def readLong (reading : Reading) (name : String) (value : Option String) :
    Except Halt Reading :=
  match CommandOption.ofName? name, value with
  | some (.value option), some text => do
    (← reading.settle.mapError .rejected).addValue option text |>.mapError .rejected
  | some (.value option), none => do
    let reading ← reading.settle.mapError .rejected
    return { reading with held := some ⟨option, none⟩ }
  | some (.flag flag), none => reading.readFlag flag true
  | some (.flag flag), some text =>
    .error (.rejected (.unneededValue flag text reading.settled.isEmpty))
  | none, _ =>
    .error (.rejected (.unknownName name reading.shownOptions
      (Text.mostSimilar? CommandOption.name name CommandOption.all)))

/-- Reads an argument that is no option: the value that the option before it waits for. -/
def readPlain (reading : Reading) (text : String) : Except Halt Reading :=
  match reading.held with
  | some ⟨option, none⟩ => .ok { reading with held := some ⟨option, some text⟩ }
  | _ => .error (.rejected (.stray text))

/-- Reads arguments up to their end. Behind the separator there may be none. -/
def readAll (reading : Reading) : List String → Except Halt Reading
  | [] => reading.settle.mapError .rejected
  | argument :: rest =>
    match Argument.ofText argument with
    | .separator =>
      match rest with
      | [] => reading.settle.mapError .rejected
      | text :: _ => .error (.rejected (.stray text))
    | .long name value => do readAll (← reading.readLong name value) rest
    | .letters letters => do readAll (← reading.readLetters letters) rest
    | .plain text => do readAll (← reading.readPlain text) rest

/-- Takes the value of an option from the environment, unless the option is given. -/
def fill (reading : Reading) (option : ValueOption) (value : Option String) :
    Except Rejection Reading :=
  match value with
  | some text =>
    if reading.has (.value option) then .ok reading else reading.addValue option text
  | none => .ok reading

/-- The settings that a reading stands for. -/
def settings (reading : Reading) : Except Rejection Settings :=
  match reading.value? .referenceDir, reading.value? .comparisonDir with
  | some referenceDir, some comparisonDir =>
    .ok {
      referencePath := Path.ofText referenceDir
      comparisonPath := Path.ofText comparisonDir
      ignorePath := (reading.value? .ignoreFile).map Path.ofText
      referencePrefix := (reading.value? .referencePrefix).getD defaultReferencePrefix
      comparisonInfix := (reading.value? .comparisonInfix).getD defaultComparisonInfix
      sorted := reading.has (.flag .sorted)
      color := ((reading.value? .color).bind ColorMode.ofName?).getD .auto
      summary := reading.has (.flag .summary)
      strict := reading.has (.flag .strict)
      verbose := reading.has (.flag .verbose) }
  | _, _ =>
    .error (.missingOptions
      (ValueOption.required.filter fun option => !reading.has (.value option)) reading.options)

end Reading

/-- Reads the settings off a command line. -/
def Settings.ofArguments (environment : Environment) (arguments : List String) :
    Except Halt Settings := do
  let reading ← Reading.start.readAll arguments
  let settings := do
    let reading ← reading.fill .referenceDir environment.referenceDir
    let reading ← reading.fill .comparisonDir environment.comparisonDir
    reading.settings
  settings.mapError .rejected

end SuiteAudit
