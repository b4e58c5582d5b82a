import SuiteAudit.Fault.Disk
import SuiteAudit.Text.Utf8
/-!
# Disk — paths, and what a program can ask

A name is a string of bytes without a slash, and a path is a string of bytes
whose slashes part names. Nothing says that either of them is text.

A program sees the disk through three questions: what a directory lists, of what
kind something is once links are followed, and what a file contains. The audit is
written against these questions alone, for any monad that answers them, so that
the same definition runs on a real disk and is reasoned about on a pure one.
-/

namespace SuiteAudit

/-! ## Names and paths -/

/-- A name of an entry of a directory. -/
abbrev EntryName := List UInt8

/-- A path as it was given. -/
abbrev Path := List UInt8

namespace Path

/-- The byte that parts names. -/
def slash : UInt8 := 0x2F

/-- The byte of which the names of the directory itself and of the one around it are made. -/
def dot : UInt8 := 0x2E

/-- The name of a directory within itself. -/
def here : EntryName := [dot]

/-- The name of the directory around a directory. -/
def up : EntryName := [dot, dot]

/-- A path as text. -/
def ofText (text : String) : Path :=
  Text.utf8Bytes text

/-- A path as it is shown. -/
def shown (path : Path) : String :=
  String.ofList (Text.showBytes path)

/-- Whether a path starts at the root. -/
def isAbsolute (path : Path) : Bool :=
  path.head? == some slash

/-- The pieces between slashes, empty ones included. -/
def pieces : Path → List EntryName
  | [] => [[]]
  | byte :: rest =>
    match pieces rest with
    | [] => [[byte]]
    | piece :: more =>
      if byte == slash then [] :: piece :: more else (byte :: piece) :: more

/-- The steps of a path. A slash at the end asks for a directory, like a last step to the place
itself. -/
def steps (path : Path) : List EntryName :=
  let names := (pieces path).filter (!·.isEmpty)
  if path.getLast? == some slash then names ++ [here] else names

/-- The path of an entry of a directory. -/
def entry (dir : Path) (name : EntryName) : Path :=
  if dir.isEmpty || dir.getLast? == some slash then dir ++ name else dir ++ slash :: name

end Path

/-! ## Questions -/

/-- The kind of something on disk. -/
inductive EntryKind where
  | file
  | directory
  | link
  /-- A device, a pipe or the like. -/
  | special
deriving Repr, DecidableEq, Inhabited

/-- An entry of a directory, with its own kind: a link counts as a link. -/
structure DirEntry where
  name : EntryName
  kind : EntryKind
deriving Repr, DecidableEq, Inhabited

/-- The answers of a disk. -/
structure DiskAccess (m : Type → Type) where
  /-- The entries of a directory, in the order in which the disk lists them. -/
  entries : Path → m (Except DiskFault (List DirEntry))
  /-- The kind of what a path leads to, links followed. -/
  kind : Path → m (Except DiskFault EntryKind)
  /-- The bytes of what a path leads to, links followed. -/
  contents : Path → m (Except DiskFault ByteArray)

/-- Reads a file as text. -/
def DiskAccess.readText [Monad m] (disk : DiskAccess m) (path : Path) :
    m (Except DiskFault String) := do
  match ← disk.contents path with
  | .error fault => return .error fault
  | .ok bytes =>
    match String.fromUTF8? bytes with
    | some text => return .ok text
    | none => return .error .notText

end SuiteAudit
