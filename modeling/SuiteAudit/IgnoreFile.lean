import SuiteAudit.Disk.Access
import SuiteAudit.Fault.Audit
import SuiteAudit.Text.Basic
import Std.Data.TreeSet
/-!
# Ignore file — the tests that need no counterpart

The set of reference tests that are left without a counterpart on purpose. It
is a set: the order and the repetitions of the list that it comes from are
forgotten, and it lists its names in code point order.

An ignore file is a YAML list of test names. A file with nothing but blanks in it
is an empty list.
-/

namespace SuiteAudit

/-- A set of test names to report as ignored. -/
structure IgnoreSet where
  names : Std.TreeSet String

namespace IgnoreSet

/-- The set of the names in a list. -/
def ofList (names : List String) : IgnoreSet :=
  ⟨Std.TreeSet.ofList names⟩

/-- The set without names. -/
def empty : IgnoreSet :=
  ofList []

/-- The names that are ignored when no list is given. -/
def builtinNames : List String :=
  ["test_member_entry_is_hashable_based_on_str_out",
   "test_convert_with_empty_set",
   "test_convert_with_simple_set",
   "test_convert_with_mixed_set",
   "test_convert_with_empty_tuple",
   "test_convert_with_simple_tuple",
   "test_convert_with_mixed_tuple"]

/-- The set that is used when no list is given. -/
def builtin : IgnoreSet :=
  ofList builtinNames

/-- Whether a name is in the set. -/
def contains (set : IgnoreSet) (name : String) : Bool :=
  set.names.contains name

/-- The number of names in the set. -/
def size (set : IgnoreSet) : Nat :=
  set.names.size

/-- Whether the set has no names. -/
def isEmpty (set : IgnoreSet) : Bool :=
  set.names.isEmpty

/-- The names of the set in code point order. -/
def toList (set : IgnoreSet) : List String :=
  set.names.toList

/-- Two sets are the same when they have the same names. -/
def same (a b : IgnoreSet) : Bool :=
  a.toList == b.toList

/-- A name is found exactly when it is one of the names. -/
theorem contains_iff_mem {set : IgnoreSet} {name : String} :
    set.contains name = true ↔ name ∈ set.names :=
  Iff.rfl

/-- A name is in the set of a list exactly when it is in the list. -/
@[simp] theorem contains_ofList (names : List String) (name : String) :
    (ofList names).contains name = names.contains name := by
  simp [ofList, contains]

@[simp] theorem mem_names_ofList {names : List String} {name : String} :
    name ∈ (ofList names).names ↔ name ∈ names := by
  rw [← contains_iff_mem, contains_ofList, List.contains_iff_mem]

/-! ## On disk -/

/-- Reads the text of an ignore file. -/
def ofText (source : String) : Except Yaml.ListFault IgnoreSet :=
  if source.toList.all Text.isBlank then .ok empty
  else (Yaml.readTextList source.toList).map fun names => ofList (names.map String.ofList)

/-- Reads an ignore file. -/
def ofFile {m : Type → Type} [Monad m] (disk : DiskAccess m) (path : Path) :
    m (Except AuditFault IgnoreSet) := do
  match ← disk.readText path with
  | .error fault => return .error (.readIgnoreList path fault)
  | .ok source =>
    match ofText source with
    | .error fault => return .error (.parseIgnoreList path fault)
    | .ok set => return .ok set

end IgnoreSet

end SuiteAudit
