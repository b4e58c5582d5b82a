import SuiteAudit.Suite.Candidates
import SuiteAudit.Suite.Comparison
import SuiteAudit.Suite.Reference
/-!
# Suites — scanning

A scan reads the files of a suite and takes out what each of them declares or
covers. The reference suite is told by the beginning of its file names, the
comparison suite by a marker inside them.
-/

namespace SuiteAudit

/-- The beginning of the names of reference files, unless another one is set. -/
def defaultReferencePrefix : String := "test_"

/-- The marker in the names of comparison files, unless another one is set. -/
def defaultComparisonInfix : String := ".test."

/-- Whether a text contains another. -/
def containsText (part : List Char) : List Char → Bool
  | [] => part.isEmpty
  | c :: cs => (Text.lead? part (c :: cs)).isSome || containsText part cs

/-- Whether a name is one of a reference file. -/
def isReferenceName (lead name : String) : Bool :=
  (Text.lead? lead.toList name.toList).isSome

/-- Whether a name is one of a comparison file. -/
def isComparisonName (marker name : String) : Bool :=
  containsText marker.toList name.toList

/-- What a reference file declares. -/
def SuiteFile.toReference (file : SuiteFile) : ReferenceFile :=
  ⟨file.name, declaredTests file.source⟩

/-- What a comparison file covers. -/
def SuiteFile.toComparison (file : SuiteFile) : ComparisonFile :=
  ⟨file.name, coveringTests file.source⟩

variable {m : Type → Type} [Monad m] (disk : DiskAccess m)

/-- Scans a reference suite. -/
def scanReference (order : ListingOrder) (lead : String) (dir : Path) :
    m (Except AuditFault (List ReferenceFile)) := do
  let files ← readSuite disk order (isReferenceName lead) dir
  return files.map fun files => files.map SuiteFile.toReference

/-- Scans a comparison suite. -/
def scanComparison (order : ListingOrder) (marker : String) (dir : Path) :
    m (Except AuditFault (List ComparisonFile)) := do
  let files ← readSuite disk order (isComparisonName marker) dir
  return files.map fun files => files.map SuiteFile.toComparison

end SuiteAudit
