import SuiteAudit.Disk.Tree
import SuiteAudit.Proofs.Run.Loading
/-!
# Run — a suite that is no directory

The setting of a suite is a path, and the path may lead to a directory, to nothing at
all, or to something else, such as a file. A run whose suite leads to nothing stops and
says so. A suite that leads to something other than a directory goes unnoticed: it reads
as a suite without files (`readSuite_of_leadsElsewhere`), so that a strict run over it
ends well with nothing audited. `requiresDirectory_iff` says that this is the only case
in which a run accepts what is no directory.
-/

namespace SuiteAudit

variable {disk : DiskAccess Id} {path : Path} {order : ListingOrder} {settings : Settings}
variable {isCandidate : String → Bool}

/-- A path leads to something that is no directory. -/
def LeadsElsewhere (disk : DiskAccess Id) (path : Path) : Prop :=
  ∃ kind, (disk.kind path).run = .ok kind ∧ kind ≠ .directory

/-- A suite that leads to nothing cannot be listed. -/
theorem readSuite_of_unresolved {cause : DiskFault} (h : (disk.kind path).run = .error cause) :
    (readSuite disk order isCandidate path).run = .error (.listSuite path cause) := by
  rw [readSuite_run, listSuite_run, h]

/-- What is no directory has no entries. -/
theorem listSuite_of_leadsElsewhere (h : LeadsElsewhere disk path) :
    (listSuite disk path).run = .ok [] := by
  obtain ⟨kind, hkind, hne⟩ := h
  rw [listSuite_run, hkind]
  cases kind with
  | directory => exact absurd rfl hne
  | file => rfl
  | link => rfl
  | special => rfl

/-- **A suite that leads to something other than a directory has no files.** -/
theorem readSuite_of_leadsElsewhere (h : LeadsElsewhere disk path) :
    (readSuite disk order isCandidate path).run = .ok [] := by
  have hnone : order.arrange [] = [] := by
    cases order with
    | asListed => rfl
    | byName => exact List.mergeSort_nil
  rw [readSuite_run, listSuite_of_leadsElsewhere h]
  dsimp only
  rw [hnone]
  rfl

/-! ## Scans -/

theorem scanReference_run {lead : String} :
    (scanReference disk order lead path).run =
      (readSuite disk order (isReferenceName lead) path).run.map
        (List.map SuiteFile.toReference) := rfl

theorem scanComparison_run {marker : String} :
    (scanComparison disk order marker path).run =
      (readSuite disk order (isComparisonName marker) path).run.map
        (List.map SuiteFile.toComparison) := rfl

theorem scanReference_of_leadsElsewhere {lead : String} (h : LeadsElsewhere disk path) :
    (scanReference disk order lead path).run = .ok [] := by
  rw [scanReference_run, readSuite_of_leadsElsewhere h]
  rfl

theorem scanComparison_of_leadsElsewhere {marker : String} (h : LeadsElsewhere disk path) :
    (scanComparison disk order marker path).run = .ok [] := by
  rw [scanComparison_run, readSuite_of_leadsElsewhere h]
  rfl

/-- **A suite setting is refused** unless it leads to a directory: both scans say that they cannot
list it, in any order and under any naming convention, and a run with such a setting writes nothing
and ends with code 1. -/
structure RequiresDirectory (disk : DiskAccess Id) (path : Path) : Prop where
  reference : (disk.kind path).run ≠ .ok .directory → ∀ order lead, ∃ cause,
    (scanReference disk order lead path).run = .error (.listSuite path cause)
  comparison : (disk.kind path).run ≠ .ok .directory → ∀ order marker, ∃ cause,
    (scanComparison disk order marker path).run = .error (.listSuite path cause)
  run : (disk.kind path).run ≠ .ok .directory → ∀ (settings : Settings) sink,
    settings.referencePath = path ∨ settings.comparisonPath = path →
    (audit disk settings sink).run.output = [] ∧ (audit disk settings sink).run.exitCode = 1

/-- A run that does not load both of its suites writes nothing and ends badly. -/
theorem audit_run_of_not_loads (h : ¬ settings.Loads disk) (sink : Sink) :
    (audit disk settings sink).run.output = [] ∧ (audit disk settings sink).run.exitCode = 1 := by
  obtain ⟨fault, hstops⟩ := not_loads_iff.1 h
  rw [audit_run_of_fault (load_eq_error_iff.2 hstops)]
  exact ⟨rfl, rfl⟩

/-- Where a path leads to nothing, the setting is refused. -/
theorem requiresDirectory_of_unresolved {cause : DiskFault}
    (h : (disk.kind path).run = .error cause) : RequiresDirectory disk path where
  reference _ order lead := by
    refine ⟨cause, ?_⟩
    rw [scanReference_run, readSuite_of_unresolved h]
    rfl
  comparison _ order marker := by
    refine ⟨cause, ?_⟩
    rw [scanComparison_run, readSuite_of_unresolved h]
    rfl
  run _ settings sink hset := by
    refine audit_run_of_not_loads (fun hloads => ?_) sink
    obtain ⟨-, ⟨reference, hreference⟩, ⟨comparison, hcomparison⟩⟩ := hloads
    rcases hset with rfl | rfl
    · rw [Settings.loadReference, scanReference_run, readSuite_of_unresolved h] at hreference
      cases hreference
    · rw [Settings.loadComparison, scanComparison_run, readSuite_of_unresolved h] at hcomparison
      cases hcomparison

/-- **A suite setting is checked except where it leads to something other than a directory**, and
there it is taken for a suite without files. -/
theorem requiresDirectory_iff (disk : DiskAccess Id) (path : Path) :
    (RequiresDirectory disk path ↔ ¬ LeadsElsewhere disk path) ∧
      (LeadsElsewhere disk path → ∀ order lead marker,
        (scanReference disk order lead path).run = .ok [] ∧
        (scanComparison disk order marker path).run = .ok []) := by
  refine ⟨⟨fun hrequires helsewhere => ?_, fun h => ?_⟩, fun helsewhere order lead marker =>
    ⟨scanReference_of_leadsElsewhere helsewhere, scanComparison_of_leadsElsewhere helsewhere⟩⟩
  · have ⟨kind, hkind, hne⟩ := helsewhere
    have hnot : (disk.kind path).run ≠ .ok .directory := by
      rw [hkind]
      exact fun heq => hne (Except.ok.inj heq)
    obtain ⟨cause, hfault⟩ := hrequires.reference hnot .asListed defaultReferencePrefix
    rw [scanReference_of_leadsElsewhere helsewhere] at hfault
    cases hfault
  · cases hkind : (disk.kind path).run with
    | error cause => exact requiresDirectory_of_unresolved hkind
    | ok kind =>
      -- it leads somewhere, and so to a directory
      have hdirectory : kind = .directory := by
        by_contra hne
        exact h ⟨kind, hkind, hne⟩
      have hkind' : (disk.kind path).run = .ok .directory := hdirectory ▸ hkind
      exact ⟨fun hnot => absurd hkind' hnot, fun hnot => absurd hkind' hnot,
        fun hnot => absurd hkind' hnot⟩

/-! ### A file in place of a directory -/

/-- A disk with a file and an empty directory. -/
def fileDisk : Disk where
  root := .directory [(Path.ofText "suite.py", .file "def test_x(".toUTF8),
    (Path.ofText "other", .directory [])]
  current := []

/-- A strict run whose reference suite is the file. -/
def fileSettings : Settings where
  referencePath := Path.ofText "suite.py"
  comparisonPath := Path.ofText "other"
  ignorePath := none
  referencePrefix := defaultReferencePrefix
  comparisonInfix := defaultComparisonInfix
  sorted := false
  color := .never
  summary := false
  strict := true
  verbose := false

/-- A file is accepted as a suite, and a strict run over it ends well. -/
theorem accepts_file :
    ¬ RequiresDirectory fileDisk.access (Path.ofText "suite.py") ∧
      (audit fileDisk.access fileSettings .unbounded).run.exitCode = 0 := by
  have hkind : (fileDisk.access.kind (Path.ofText "suite.py")).run = .ok .file := by decide +kernel
  have hreference : (fileSettings.loadReference fileDisk.access).run = .ok [] :=
    scanReference_of_leadsElsewhere ⟨.file, hkind, by decide⟩
  have hcomparison : (fileSettings.loadComparison fileDisk.access).run = .ok [] := by decide +kernel
  have hload : (fileSettings.load fileDisk.access).run.result = .ok ⟨.builtin, [], []⟩ :=
    load_eq_ok_iff.2 ⟨rfl, hreference, hcomparison⟩
  have hexit : (audit fileDisk.access fileSettings .unbounded).run.exitCode = 0 := by
    rw [exitCode_of_loaded hload]
    rfl
  refine ⟨fun hrequires => ?_, hexit⟩
  have hrun := hrequires.run (by simp [hkind]) fileSettings .unbounded (.inl rfl)
  rw [hexit] at hrun
  exact absurd hrun.2 (by decide)

end SuiteAudit
