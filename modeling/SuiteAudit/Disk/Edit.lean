import SuiteAudit.Disk.Tree
/-!
# Disk — changes

A disk changes by putting files, directories and links at paths and by removing
what lies at one. Directories on the way to a new thing are made, also those that
the path leaves again.
-/

namespace SuiteAudit.Disk

/-- Goes along steps from a place, and makes a directory where one is missing on the way. The last
step may lead to nothing; a link there is followed only if `through` says so. -/
def reach (root : Node) (through : Bool) (links : Nat) (place steps : List EntryName) :
    Node × List EntryName :=
  match steps with
  | [] => (root, place)
  | step :: rest =>
    if step = Path.here then reach root through links place rest
    else if step = Path.up then reach root through links place.tail rest
    else
      let next := step :: place
      match root.at? next.reverse with
      | some (.link target) =>
        if rest.isEmpty && !through then (root, next)
        else
          match links with
          | 0 => (root, next)
          | links + 1 =>
            reach root through links (origin place target) (Path.steps target ++ rest)
      | some _ => reach root through links next rest
      | none =>
        if rest.isEmpty then (root, next)
        else reach (Node.emptyDirectory.put next.reverse (some root)) through links next rest
termination_by (links, steps.length)

/-- The disk with the directories on the way to a path, and the place where the path leads, with
the outermost name first. -/
def pave (disk : Disk) (through : Bool) (path : Path) : Disk × List EntryName :=
  let (root, place) := reach disk.root through mostLinks (origin disk.current path) path.steps
  ({ disk with root }, place.reverse)

/-- The disk with a node at a place. -/
def putAt (disk : Disk) (place : List EntryName) (node : Node) : Disk :=
  { disk with root := node.put place (some disk.root) }

/-- Writes a file, through a link if one is there. -/
def writeFile (disk : Disk) (path : Path) (contents : ByteArray) : Disk :=
  let (disk, place) := disk.pave true path
  disk.putAt place (.file contents)

/-- Makes a directory, unless something is there. -/
def makeDirectory (disk : Disk) (path : Path) : Disk :=
  let (disk, place) := disk.pave true path
  match disk.root.at? place with
  | some _ => disk
  | none => disk.putAt place .emptyDirectory

/-- Makes a link. -/
def makeLink (disk : Disk) (path target : Path) : Disk :=
  let (disk, place) := disk.pave false path
  disk.putAt place (.link target)

/-- Removes what a path names, links not followed. -/
def remove (disk : Disk) (path : Path) : Disk :=
  match disk.resolve false path with
  | .ok (place, _) => { disk with root := disk.root.removeAt place.reverse }
  | .error _ => disk

end SuiteAudit.Disk
