import SuiteAudit.Disk.Access
/-!
# Disk — a disk as a tree

A pure disk: files, directories, links and special files in a tree, with a
current directory. `Disk.walk` follows a path through it, step by step and link
by link, and says where it leads or why it leads nowhere.
-/

namespace SuiteAudit

/-- Something on a disk. -/
inductive Node where
  | file (contents : ByteArray)
  /-- A directory, its entries in the order in which they are listed. -/
  | directory (entries : List (EntryName × Node))
  | link (target : Path)
  /-- A device or a pipe, and what reading it yields. -/
  | special (contents : ByteArray)
deriving Inhabited

namespace Node

/-- The empty directory. -/
def emptyDirectory : Node :=
  .directory []

/-- The kind of a node. -/
def kind : Node → EntryKind
  | file _ => .file
  | directory _ => .directory
  | link _ => .link
  | special _ => .special

/-- The entry of a directory that has a name. -/
def child? (name : EntryName) : Node → Option Node
  | directory entries => entries.lookup name
  | _ => none

/-- What lies at a place, given as the names on the way to it. -/
def at? (node : Node) : List EntryName → Option Node
  | [] => some node
  | name :: names => (node.child? name).bind (·.at? names)

/-- Gives an entry of a directory a node: an entry that is there keeps its place in the listing, a
new one comes last. -/
def setEntry (name : EntryName) (node : Node) : List (EntryName × Node) → List (EntryName × Node)
  | [] => [(name, node)]
  | (other, old) :: rest =>
    if other = name then (name, node) :: rest else (other, old) :: setEntry name node rest

/-- Puts a node at a place. Directories on the way that are missing are made; a place behind
something else than a directory does not change. -/
def put (new : Node) : List EntryName → Option Node → Node
  | [], _ => new
  | name :: names, none => .directory [(name, put new names none)]
  | name :: names, some (.directory entries) =>
    .directory (setEntry name (put new names (entries.lookup name)) entries)
  | _ :: _, some other => other

/-- Removes what lies at a place, with all in it. -/
def removeAt : List EntryName → Node → Node
  | [name], .directory entries => .directory (entries.filter fun entry => entry.1 ≠ name)
  | name :: names, .directory entries =>
    match entries.lookup name with
    | some inner => .directory (setEntry name (removeAt names inner) entries)
    | none => .directory entries
  | _, node => node

end Node

/-- A disk and a current directory, given as the names on the way to it, innermost first. -/
structure Disk where
  root : Node
  current : List EntryName
deriving Inhabited

namespace Disk

/-- The greatest length of a name. -/
def longestName : Nat := 255

/-- The length at which a path is too long. -/
def pathTooLong : Nat := 4096

/-- How many links a path may lead through. -/
def mostLinks : Nat := 40

/-- Where a path starts. -/
def origin (place : List EntryName) (path : Path) : List EntryName :=
  if path.isAbsolute then [] else place

/-- Follows the steps of a path from a place, up to a link. Places are given with the innermost name
first. A link at the last step is where the path leads, unless `through` says that it is followed;
what comes of a link that is followed is left to `follow`. -/
def walkToLink (root : Node) (through : Bool)
    (follow : List EntryName → Path → List EntryName → Except DiskFault (List EntryName × Node))
    (place : List EntryName) : List EntryName → Except DiskFault (List EntryName × Node)
  | [] =>
    match root.at? place.reverse with
    | none => .error .noEntry
    | some node => .ok (place, node)
  | step :: rest =>
    match root.at? place.reverse with
    | none => .error .noEntry
    | some node =>
      if node.kind ≠ .directory then .error .notDirectory
      else if step = Path.here then walkToLink root through follow place rest
      else if step = Path.up then walkToLink root through follow place.tail rest
      else if longestName < step.length then .error .nameTooLong
      else
        match node.child? step with
        | none => .error .noEntry
        | some (.link target) =>
          if rest.isEmpty && !through then .ok (step :: place, .link target)
          else follow place target rest
        | some _ => walkToLink root through follow (step :: place) rest

/-- Follows the steps of a path from a place, through so many links and no more. -/
def walk (root : Node) (through : Bool) :
    Nat → List EntryName → List EntryName → Except DiskFault (List EntryName × Node)
  | 0 => walkToLink root through fun _ _ _ => .error .linkLoop
  | links + 1 => walkToLink root through fun place target rest =>
    if target.isEmpty then .error .noEntry
    else walk root through links (origin place target) (target.steps ++ rest)

/-- Where a path leads, with the node there. -/
def resolve (disk : Disk) (through : Bool) (path : Path) :
    Except DiskFault (List EntryName × Node) :=
  if path.isEmpty then .error .noEntry
  else if path.contains 0 then .error .zeroByte
  else if pathTooLong ≤ path.length then .error .nameTooLong
  else walk disk.root through mostLinks (origin disk.current path) path.steps

/-- The entries of the directory at a path. -/
def entries (disk : Disk) (path : Path) : Except DiskFault (List DirEntry) :=
  match disk.resolve true path with
  | .error fault => .error fault
  | .ok (_, .directory entries) => .ok (entries.map fun (name, node) => ⟨name, node.kind⟩)
  | .ok _ => .error .notDirectory

/-- The kind of what a path leads to. -/
def kind (disk : Disk) (path : Path) : Except DiskFault EntryKind :=
  (disk.resolve true path).map fun (_, node) => node.kind

/-- The bytes of what a path leads to. -/
def contents (disk : Disk) (path : Path) : Except DiskFault ByteArray :=
  match disk.resolve true path with
  | .error fault => .error fault
  | .ok (_, .file bytes) => .ok bytes
  | .ok (_, .special bytes) => .ok bytes
  | .ok (_, .directory _) => .error .isDirectory
  | .ok (_, .link _) => .error .linkLoop

/-- The answers of a pure disk. -/
def access (disk : Disk) : DiskAccess Id where
  entries path := disk.entries path
  kind path := disk.kind path
  contents path := disk.contents path

end Disk

end SuiteAudit
