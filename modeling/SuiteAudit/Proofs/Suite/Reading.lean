import SuiteAudit.Suite.Scan
import Mathlib.Data.List.Infix
import Mathlib.Data.List.ReduceOption
/-!
# Suites — what reading a suite yields

A suite is read from a disk that answers questions, and for a disk whose answers do
not change the files that come out are told by those answers alone: `InSuite` asks
for an entry of the directory with the right name that is a regular file or leads to
one, and for its text. Reading that succeeds yields these files and no others
(`mem_readSuite_iff`), in either visiting order.
-/

namespace SuiteAudit

/-! ## Names -/

/-- A lead can be read off exactly the texts that begin with it. -/
theorem isSome_lead?_iff {part cs : List Char} :
    (Text.lead? part cs).isSome = true ↔ part <+: cs := by
  rw [Option.isSome_iff_exists]
  constructor
  · rintro ⟨rest, h⟩
    exact ⟨rest, (Text.lead?_eq_some_iff.1 h).symm⟩
  · rintro ⟨rest, h⟩
    exact ⟨rest, Text.lead?_eq_some_iff.2 h.symm⟩

theorem isReferenceName_iff {lead name : String} :
    isReferenceName lead name = true ↔ lead.toList <+: name.toList :=
  isSome_lead?_iff

theorem containsText_iff {part cs : List Char} : containsText part cs = true ↔ part <:+: cs := by
  induction cs with
  | nil => simp [containsText]
  | cons c cs ih =>
    rw [containsText, Bool.or_eq_true, isSome_lead?_iff, ih, List.infix_cons_iff]

theorem isComparisonName_iff {marker name : String} :
    isComparisonName marker name = true ↔ marker.toList <:+: name.toList :=
  containsText_iff

section

variable {disk : DiskAccess Id} {isCandidate : String → Bool} {dir path : Path}
variable {entry : DirEntry} {entries : List DirEntry} {file : SuiteFile} {files : List SuiteFile}
variable {order : ListingOrder}

/-! ## Entries -/

/-- An entry is a regular file, or a link that leads to one. -/
def LeadsToFile (disk : DiskAccess Id) (path : Path) (entry : DirEntry) : Prop :=
  entry.kind = .file ∨ entry.kind = .link ∧ (disk.kind path).run = .ok .file

/-- A link is followed, and the disk asked what it leads to. -/
theorem isRegularFile_link_run {name : EntryName} :
    (isRegularFile disk path ⟨name, .link⟩).run =
      match (disk.kind path).run with
      | .error fault => .error (.readSuiteFile path fault)
      | .ok kind => .ok (kind == .file) := rfl

theorem isRegularFile_eq_true_iff :
    (isRegularFile disk path entry).run = .ok true ↔ LeadsToFile disk path entry := by
  obtain ⟨name, kind⟩ := entry
  cases kind with
  | link =>
    rw [isRegularFile_link_run]
    cases hkind : (disk.kind path).run with
    | error fault => simp [LeadsToFile, hkind]
    | ok kind => simp [LeadsToFile, hkind]
  | file => exact iff_of_true rfl (Or.inl rfl)
  | directory => simp [LeadsToFile, isRegularFile]
  | special => simp [LeadsToFile, isRegularFile]

/-- The three checks on an entry, in their order: its name, its kind, its contents. -/
theorem readEntry_run :
    (readEntry disk isCandidate dir entry).run =
      if !isCandidate entry.shownName then .ok none
      else
        match (isRegularFile disk (Path.entry dir entry.name) entry).run with
        | .error fault => .error fault
        | .ok false => .ok none
        | .ok true =>
          match (disk.readText (Path.entry dir entry.name)).run with
          | .error fault => .error (.readSuiteFile (Path.entry dir entry.name) fault)
          | .ok source => .ok (some ⟨entry.shownName, source⟩) := by
  rw [readEntry]
  split <;> rfl

/-- A file is read off an entry with a fitting name that leads to a file. -/
theorem readEntry_eq_some_iff :
    (readEntry disk isCandidate dir entry).run = .ok (some file) ↔
      isCandidate entry.shownName = true ∧ LeadsToFile disk (Path.entry dir entry.name) entry ∧
        file.name = entry.shownName ∧
        (disk.readText (Path.entry dir entry.name)).run = .ok file.source := by
  obtain ⟨name, source⟩ := file
  rw [readEntry_run, ← isRegularFile_eq_true_iff]
  cases hname : isCandidate entry.shownName with
  | false => simp
  | true =>
    cases hkind : (isRegularFile disk (Path.entry dir entry.name) entry).run with
    | error fault => simp
    | ok regular =>
      cases regular with
      | false => simp
      | true =>
        cases htext : (disk.readText (Path.entry dir entry.name)).run with
        | error fault => simp
        | ok text => simp [eq_comm]

/-- Entries are read from the first on, and a fault ends the reading. -/
theorem readEntries_cons_run :
    (readEntries disk isCandidate dir (entry :: entries)).run =
      match (readEntry disk isCandidate dir entry).run with
      | .error fault => .error fault
      | .ok file? =>
        match (readEntries disk isCandidate dir entries).run with
        | .error fault => .error fault
        | .ok files => .ok (file?.toList ++ files) := rfl

/-- What is read off some entries is what is read off each of them, if all of them can be read. -/
theorem readEntries_eq_ok_iff :
    (readEntries disk isCandidate dir entries).run = .ok files ↔
      ∃ found : List (Option SuiteFile),
        (entries.map fun entry => (readEntry disk isCandidate dir entry).run) = found.map .ok ∧
        files = found.reduceOption := by
  induction entries generalizing files with
  | nil =>
    have hrun : (readEntries disk isCandidate dir []).run = .ok [] := rfl
    simp [hrun, eq_comm]
  | cons entry entries ih =>
    rw [readEntries_cons_run, List.map_cons]
    constructor
    · intro h
      split at h
      · cases h
      · rename_i file? hentry
        split at h
        · cases h
        · rename_i more hmore
          obtain ⟨found, hfound, rfl⟩ := ih.1 hmore
          obtain rfl := Except.ok.inj h
          exact ⟨file? :: found, by rw [hentry, hfound, List.map_cons], by cases file? <;> simp⟩
    · rintro ⟨_ | ⟨file?, found⟩, hfound, rfl⟩
      · cases hfound
      · obtain ⟨hentry, hfound⟩ := List.cons.inj hfound
        rw [hentry, ih.2 ⟨found, hfound, rfl⟩]
        cases file? <;> simp

/-- The files read off entries are those of the single entries. -/
theorem mem_readEntries_iff (h : (readEntries disk isCandidate dir entries).run = .ok files) :
    file ∈ files ↔
      ∃ entry ∈ entries, (readEntry disk isCandidate dir entry).run = .ok (some file) := by
  obtain ⟨found, hfound, rfl⟩ := readEntries_eq_ok_iff.1 h
  have hmem : Except.ok (some file) ∈
      (found.map .ok : List (Except AuditFault (Option SuiteFile))) ↔ some file ∈ found := by
    simp
  rw [List.reduceOption_mem_iff, ← hmem, ← hfound, List.mem_map]

/-! ## Suites -/

/-- **The files of a suite**: the entries of its directory that have a fitting name and are or lead
to a regular file, each with its name as shown and its text. -/
def InSuite (disk : DiskAccess Id) (named : String → Prop) (dir : Path) (file : SuiteFile) : Prop :=
  (disk.kind dir).run = .ok .directory ∧ ∃ entries, (disk.entries dir).run = .ok entries ∧
    ∃ entry ∈ entries, named entry.shownName ∧
      LeadsToFile disk (Path.entry dir entry.name) entry ∧ file.name = entry.shownName ∧
      (disk.readText (Path.entry dir entry.name)).run = .ok file.source

theorem ListingOrder.mem_arrange : entry ∈ order.arrange entries ↔ entry ∈ entries := by
  cases order with
  | asListed => rfl
  | byName => exact List.mem_mergeSort

/-- A suite that is a directory has its entries, one that is something else has none. -/
theorem listSuite_run :
    (listSuite disk dir).run =
      match (disk.kind dir).run with
      | .error fault => .error fault
      | .ok .directory => (disk.entries dir).run
      | .ok _ => .ok [] := by
  rw [listSuite, Id.run_bind]
  cases (disk.kind dir).run with
  | error fault => rfl
  | ok kind => cases kind <;> rfl

theorem readSuite_run :
    (readSuite disk order isCandidate dir).run =
      match (listSuite disk dir).run with
      | .error fault => .error (.listSuite dir fault)
      | .ok entries => (readEntries disk isCandidate dir (order.arrange entries)).run := rfl

/-- What is listed, in terms of the directory. -/
theorem mem_listSuite_iff (h : (listSuite disk dir).run = .ok entries) :
    entry ∈ entries ↔ (disk.kind dir).run = .ok .directory ∧
      ∃ listed, (disk.entries dir).run = .ok listed ∧ entry ∈ listed := by
  rw [listSuite_run] at h
  split at h
  · cases h
  · rename_i hkind
    simp [hkind, h]
  · rename_i kind hne hkind
    obtain rfl := Except.ok.inj h
    have hother : kind ≠ .directory := hne
    simp [hkind, hother]

/-- **Reading a suite yields its files and no others.** -/
theorem mem_readSuite_iff {named : String → Prop}
    (hnamed : ∀ name, isCandidate name = true ↔ named name)
    (h : (readSuite disk order isCandidate dir).run = .ok files) :
    file ∈ files ↔ InSuite disk named dir file := by
  rw [readSuite_run] at h
  cases hlist : (listSuite disk dir).run with
  | error fault =>
    rw [hlist] at h
    cases h
  | ok entries =>
    rw [hlist] at h
    simp only [mem_readEntries_iff h, ListingOrder.mem_arrange, mem_listSuite_iff hlist,
      readEntry_eq_some_iff, hnamed, InSuite]
    constructor
    · rintro ⟨entry, ⟨hkind, listed, hlisted, hentry⟩, hrest⟩
      exact ⟨hkind, listed, hlisted, entry, hentry, hrest⟩
    · rintro ⟨hkind, listed, hlisted, entry, hentry, hrest⟩
      exact ⟨entry, ⟨hkind, listed, hlisted, hentry⟩, hrest⟩

/-! ## Scans -/

/-- What files are read off a reference suite is what its scan says. -/
theorem scanReference_eq_ok_iff {lead : String} {reference : List ReferenceFile} :
    (scanReference disk order lead dir).run = .ok reference ↔
      ∃ files, (readSuite disk order (isReferenceName lead) dir).run = .ok files ∧
        reference = files.map SuiteFile.toReference := by
  rw [scanReference, Id.run_bind]
  cases (readSuite disk order (isReferenceName lead) dir).run <;> simp [Except.map, eq_comm]

/-- And likewise for a comparison suite. -/
theorem scanComparison_eq_ok_iff {marker : String} {comparison : List ComparisonFile} :
    (scanComparison disk order marker dir).run = .ok comparison ↔
      ∃ files, (readSuite disk order (isComparisonName marker) dir).run = .ok files ∧
        comparison = files.map SuiteFile.toComparison := by
  rw [scanComparison, Id.run_bind]
  cases (readSuite disk order (isComparisonName marker) dir).run <;> simp [Except.map, eq_comm]

end

end SuiteAudit
