import SuiteAudit.Disk.Access
import SuiteAudit.Fault.Audit
/-!
# Suites — the files of a suite

A suite is a directory, and its files are the regular files directly in it, or
links to such files, whose names follow a convention. Three checks are made on
every entry, in this order: its name, its kind, its contents. An entry that fails
the first is passed over whatever it is; a link that leads nowhere, and a file
that cannot be read as text, stop the scan.
-/

namespace SuiteAudit

/-- The order in which the files of a suite are visited. -/
inductive ListingOrder where
  /-- As the disk lists them. -/
  | asListed
  /-- By the bytes of their names. -/
  | byName
deriving Repr, DecidableEq, Inhabited

/-- A file of a suite: its name as shown, and its text. -/
structure SuiteFile where
  name : String
  source : String
deriving Repr, DecidableEq, Inhabited

/-- The name of an entry as it is shown. -/
def DirEntry.shownName (entry : DirEntry) : String :=
  Path.shown entry.name

/-- Entries in a visiting order. -/
def ListingOrder.arrange (order : ListingOrder) (entries : List DirEntry) : List DirEntry :=
  match order with
  | asListed => entries
  | byName => entries.mergeSort fun a b => decide (a.name ≤ b.name)

section

variable {m : Type → Type} [Monad m] (disk : DiskAccess m)

/-- Whether an entry is a regular file once links are followed. -/
def isRegularFile (path : Path) (entry : DirEntry) : m (Except AuditFault Bool) := do
  match entry.kind with
  | .link =>
    match ← disk.kind path with
    | .error fault => return .error (.readSuiteFile path fault)
    | .ok kind => return .ok (kind == .file)
  | kind => return .ok (kind == .file)

/-- Reads an entry, if it is a file of the suite. -/
def readEntry (isCandidate : String → Bool) (dir : Path) (entry : DirEntry) :
    m (Except AuditFault (Option SuiteFile)) := do
  if !isCandidate entry.shownName then
    return .ok none
  let path := Path.entry dir entry.name
  match ← isRegularFile disk path entry with
  | .error fault => return .error fault
  | .ok false => return .ok none
  | .ok true =>
    match ← disk.readText path with
    | .error fault => return .error (.readSuiteFile path fault)
    | .ok source => return .ok (some ⟨entry.shownName, source⟩)

/-- Reads the files of the suite among some entries, up to the first entry that cannot be read. -/
def readEntries (isCandidate : String → Bool) (dir : Path) :
    List DirEntry → m (Except AuditFault (List SuiteFile))
  | [] => return .ok []
  | entry :: entries => do
    match ← readEntry disk isCandidate dir entry with
    | .error fault => return .error fault
    | .ok file? =>
      match ← readEntries isCandidate dir entries with
      | .error fault => return .error fault
      | .ok files => return .ok (file?.toList ++ files)

/-- The entries of the directory of a suite. A suite that is no directory, but something else that
is there, has none. -/
def listSuite (dir : Path) : m (Except DiskFault (List DirEntry)) := do
  match ← disk.kind dir with
  | .error fault => return .error fault
  | .ok .directory => disk.entries dir
  | .ok _ => return .ok []

/-- Reads the files of a suite. -/
def readSuite (order : ListingOrder) (isCandidate : String → Bool) (dir : Path) :
    m (Except AuditFault (List SuiteFile)) := do
  match ← listSuite disk dir with
  | .error fault => return .error (.listSuite dir fault)
  | .ok entries => readEntries disk isCandidate dir (order.arrange entries)

end

end SuiteAudit
