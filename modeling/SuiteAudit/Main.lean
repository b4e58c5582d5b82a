import SuiteAudit.Program
/-!
# Main — the program on a real disk

The questions of an audit are answered by the system, and what a run leaves
behind is written to the standard streams. Nothing is decided here.
-/

namespace SuiteAudit

/-- The fault that an error of the system stands for. -/
def DiskFault.ofSystem (number : Nat) (text : String) : DiskFault :=
  match number with
  | 2 => .noEntry
  | 20 => .notDirectory
  | 21 => .isDirectory
  | 28 => .deviceFull
  | 36 => .nameTooLong
  | 40 => .linkLoop
  | _ => .other (systemMessage text number)

/-- The fault that an error stands for. -/
def DiskFault.ofError : IO.Error → DiskFault
  | .noFileOrDirectory _ number text => .ofSystem number.toNat text
  | .invalidArgument _ number text => .ofSystem number.toNat text
  | .permissionDenied _ number text => .ofSystem number.toNat text
  | .resourceExhausted _ number text => .ofSystem number.toNat text
  | .inappropriateType _ number text => .ofSystem number.toNat text
  | .noSuchThing _ number text => .ofSystem number.toNat text
  | .otherError number text => .ofSystem number.toNat text
  | .resourceVanished number text => .ofSystem number.toNat text
  | .hardwareFault number text => .ofSystem number.toNat text
  | .illegalOperation number text => .ofSystem number.toNat text
  | error => .other (toString error)

/-- Asks the system about a path. The system is asked by text alone. -/
def askSystem {α : Type} (path : Path) (question : String → IO α) : IO (Except DiskFault α) := do
  match String.fromUTF8? path.toByteArray with
  | none => return .error .noEntry
  | some text =>
    try return .ok (← question text)
    catch error => return .error (.ofError error)

/-- The kind of something, as the system tells it. -/
def EntryKind.ofSystem : IO.FS.FileType → EntryKind
  | .dir => .directory
  | .file => .file
  | .symlink => .link
  | .other => .special

/-- The answers of the system. -/
def systemDisk : DiskAccess IO where
  entries path := askSystem path fun text => do
    let dir := (← IO.currentDir) / text
    (← dir.readDir).toList.mapM fun entry => do
      return ⟨Path.ofText entry.fileName, .ofSystem (← entry.path.symlinkMetadata).type⟩
  kind path := askSystem path fun text => do
    return .ofSystem (← ((← IO.currentDir) / text).metadata).type
  contents path := askSystem path fun text => IO.FS.readBinFile text

/-- Writes what a run leaves behind. A report that cannot be written makes the run a failure. -/
def AuditRun.finish (settings : Settings) (run : AuditRun) : IO UInt32 := do
  let output ← IO.getStdout
  let run ←
    try
      output.write run.output.toByteArray
      output.flush
      pure run
    catch error =>
      pure { run with fault := some (.write (.ofError error)), exitCode := 1 }
  (← IO.getStderr).putStr (run.messages settings)
  return run.exitCode.toUInt32

/-- Prints what is told when no audit follows. -/
def Halt.finish (environment : Environment) (halt : Halt) : IO UInt32 := do
  let message := halt.message environment
  if halt.isRejected then (← IO.getStderr).putStr message
  else
    try (← IO.getStdout).putStr message
    catch _ => pure ()
  return halt.exitCode.toUInt32

/-- Runs the program on the system. -/
def runOnSystem (arguments : List String) : IO UInt32 := do
  let environment : Environment :=
    ⟨← IO.getEnv Environment.referenceVariable, ← IO.getEnv Environment.comparisonVariable⟩
  match Settings.ofArguments environment arguments with
  | .error halt => halt.finish environment
  | .ok settings =>
    let terminal ← (← IO.getStdout).isTty
    let settings :=
      if terminal then { settings with color := settings.color.onTerminal } else settings
    (← audit systemDisk settings .unbounded).finish settings

end SuiteAudit

/-- The program. -/
def main (arguments : List String) : IO UInt32 :=
  SuiteAudit.runOnSystem arguments
