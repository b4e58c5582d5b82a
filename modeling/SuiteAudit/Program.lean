import SuiteAudit.CommandLine.Help
import SuiteAudit.CommandLine.Reading
import SuiteAudit.Run
/-!
# Program — from arguments to output

The program reads its arguments and carries out the audit that they ask for.
Reports and help go to the output; notes, faults and rejections go to the error
output.
-/

namespace SuiteAudit

/-- The sequence that dims what follows. -/
def dimSequence : String :=
  "\x1b[2m"

/-- The sequence that turns on the color of notes. -/
def noteColor : String :=
  "\x1b[36m"

/-- A note of progress on its line. -/
def noteLine (palette : Palette) (note : String) : String :=
  let text := programName ++ ": " ++ note
  match palette with
  | .plain => text ++ "\n"
  | .colored => resetSequence ++ dimSequence ++ noteColor ++ text ++ resetSequence ++ "\n"

/-- What an audit tells beside its report: the notes on request, and why it stopped. -/
def AuditRun.messages (settings : Settings) (run : AuditRun) : String :=
  (if settings.verbose then String.join (run.notes.map (noteLine settings.color.palette))
    else "") ++
    run.fault.elim "" AuditFault.report

/-- What a run of the program leaves behind. -/
structure ProgramRun where
  exitCode : Nat
  /-- The bytes that the output took. -/
  output : List UInt8
  /-- The text on the error output. -/
  messages : String
deriving Repr

/-- What a run leaves behind that ends with the command line. It does not matter whether the output
takes the help. -/
def Halt.run (environment : Environment) (sink : Sink) (halt : Halt) : ProgramRun :=
  let message := halt.message environment
  if halt.isRejected then ⟨halt.exitCode, [], message⟩
  else ⟨halt.exitCode, (sink.accept [Text.utf8Bytes message]).1, ""⟩

/-- Runs the program. -/
def runProgram {m : Type → Type} [Monad m] (disk : DiskAccess m) (environment : Environment)
    (arguments : List String) (sink : Sink) : m ProgramRun := do
  match Settings.ofArguments environment arguments with
  | .error halt => return halt.run environment sink
  | .ok settings =>
    let run ← audit disk settings sink
    return ⟨run.exitCode, run.output, run.messages settings⟩

end SuiteAudit
