/-!
# Faults — what the disk refuses

The ways in which reading or writing can fail, with their wording and the number
that the system gives each of them.
-/

namespace SuiteAudit

/-- Why an access to a file, a directory or a sink failed. -/
inductive DiskFault where
  /-- Nothing is there. -/
  | noEntry
  /-- A directory where a file is needed. -/
  | isDirectory
  /-- A path that goes on behind something other than a directory. -/
  | notDirectory
  /-- A name that is longer than a name may be. -/
  | nameTooLong
  /-- Links that lead on to links, past the limit. -/
  | linkLoop
  /-- The device is full. -/
  | deviceFull
  /-- The contents are no UTF-8 text. -/
  | notText
  /-- The sink of the writer has no more room. -/
  | sinkFull
  /-- A path with a zero byte in it. -/
  | zeroByte
  /-- Any other refusal, in the words of the system. -/
  | other (text : String)
deriving Repr, DecidableEq, Inhabited

/-- The wording of a refusal by the system. -/
def systemMessage (text : String) (number : Nat) : String :=
  text ++ " (os error " ++ toString number ++ ")"

/-- The wording of a fault. -/
def DiskFault.message : DiskFault → String
  | noEntry => systemMessage "No such file or directory" 2
  | notDirectory => systemMessage "Not a directory" 20
  | isDirectory => systemMessage "Is a directory" 21
  | deviceFull => systemMessage "No space left on device" 28
  | nameTooLong => systemMessage "File name too long" 36
  | linkLoop => systemMessage "Too many levels of symbolic links" 40
  | notText => "stream did not contain valid UTF-8"
  | sinkFull => "sink is full"
  | zeroByte => "file name contained an unexpected NUL byte"
  | other text => text

end SuiteAudit
