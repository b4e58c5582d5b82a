import SuiteAudit.Proofs.Suite.Entries
import SuiteAudit.Proofs.Text.Utf8
import Mathlib.Data.List.Nodup
import Mathlib.Data.List.Perm.Basic
/-!
# Suites — directories listed in another order

A disk lists the entries of a directory in whatever order it likes, and it may like
another one the next time. `Relists` relates two disks that differ in nothing else.
Read as listed, a suite then comes to the same files in some order, or cannot be read
on either of them (`sameFiles_readSuite`). Read by name, it comes to the very same
result (`Relists.readSuite_byName`), since entries with distinct names have one sorted
order only, and what this result is can be told without any order of listing
(`ReadsByName`).
-/

namespace SuiteAudit

variable {disk disk' : DiskAccess Id} {isCandidate : String → Bool} {dir : Path}
variable {entries entries' : List DirEntry} {order : ListingOrder}

/-! ## Disks that differ in their listings -/

/-- **A directory is listed again**: the same entries in any order, or the same fault. -/
inductive ListsAgain :
    Except DiskFault (List DirEntry) → Except DiskFault (List DirEntry) → Prop
  | entries {entries entries' : List DirEntry} : entries.Perm entries' →
      ListsAgain (.ok entries) (.ok entries')
  | fault (cause : DiskFault) : ListsAgain (.error cause) (.error cause)

/-- **Two disks differ in listings only**: they list the same directories with the same entries,
each in an order of its own, and everything on them is of the same kind and holds the same. -/
structure Relists (disk disk' : DiskAccess Id) : Prop where
  kind_eq : ∀ path, (disk.kind path).run = (disk'.kind path).run
  contents_eq : ∀ path, (disk.contents path).run = (disk'.contents path).run
  entries : ∀ path, ListsAgain (disk.entries path).run (disk'.entries path).run

/-- The disk that lists every directory from the last entry to the first. -/
def DiskAccess.reversed (disk : DiskAccess Id) : DiskAccess Id :=
  { disk with entries := fun path => (disk.entries path).run.map List.reverse }

theorem relists_reversed (disk : DiskAccess Id) : Relists disk disk.reversed where
  kind_eq _ := rfl
  contents_eq _ := rfl
  entries path := by
    rw [DiskAccess.reversed]
    cases hlist : (disk.entries path).run with
    | error cause => simpa [hlist] using .fault cause
    | ok entries => simpa [hlist] using .entries (List.reverse_perm entries).symm

/-- What is listed of a suite is listed again. -/
theorem Relists.listsAgain_listSuite (h : Relists disk disk') :
    ListsAgain (listSuite disk dir).run (listSuite disk' dir).run := by
  rw [listSuite_run, listSuite_run, ← h.kind_eq]
  cases (disk.kind dir).run with
  | error cause => exact .fault cause
  | ok kind =>
    cases kind with
    | directory => exact h.entries dir
    | file => exact .entries .nil
    | link => exact .entries .nil
    | special => exact .entries .nil

/-- The same entries in the same order are read alike. -/
theorem Relists.readEntries_run_eq (h : Relists disk disk') :
    (readEntries disk isCandidate dir entries).run =
      (readEntries disk' isCandidate dir entries).run :=
  (readsAlike_readEntries fun _ _ _ => ⟨fun _ => h.kind_eq _, fun _ => h.contents_eq _⟩).eq

/-- And files hold the same text. -/
theorem Relists.readText_run_eq (h : Relists disk disk') (path : Path) :
    (disk.readText path).run = (disk'.readText path).run := by
  rw [readText_run, readText_run, h.contents_eq]

/-! ## The same files in some order -/

/-- **Two readings come to the same files**, each in an order of its own, or both fail, maybe for
different reasons. -/
inductive SameFiles {α : Type} : Except AuditFault (List α) → Except AuditFault (List α) → Prop
  | files {files files' : List α} : files.Perm files' → SameFiles (.ok files) (.ok files')
  | faults (fault fault' : AuditFault) : SameFiles (.error fault) (.error fault')

namespace SameFiles

variable {α β : Type} {a b : Except AuditFault (List α)} {files files' : List α}

theorem map (h : SameFiles a b) (f : α → β) :
    SameFiles (a.map (List.map f)) (b.map (List.map f)) := by
  cases h with
  | files h => exact .files (h.map f)
  | faults fault fault' => exact .faults fault fault'

theorem exists_ok_iff (h : SameFiles a b) :
    (∃ files, a = .ok files) ↔ ∃ files, b = .ok files := by
  cases h <;> simp

theorem perm (h : SameFiles a b) (ha : a = .ok files) (hb : b = .ok files') :
    files.Perm files' := by
  subst ha hb
  cases h with
  | files h => exact h

end SameFiles

/-- **The order of the entries decides neither whether they can be read nor what is read**, only in
which order it comes. -/
theorem sameFiles_readEntries (h : entries.Perm entries') :
    SameFiles (readEntries disk isCandidate dir entries).run
      (readEntries disk isCandidate dir entries').run := by
  have hok : (∃ files, (readEntries disk isCandidate dir entries).run = .ok files) ↔
      ∃ files, (readEntries disk isCandidate dir entries').run = .ok files := by
    rw [exists_readEntries_ok_iff, exists_readEntries_ok_iff]
    exact forall_congr' fun entry => by rw [h.mem_iff]
  cases hread : (readEntries disk isCandidate dir entries).run with
  | error fault =>
    cases hread' : (readEntries disk isCandidate dir entries').run with
    | error fault' => exact .faults fault fault'
    | ok files' =>
      obtain ⟨files, hfiles⟩ := hok.2 ⟨files', hread'⟩
      rw [hread] at hfiles
      cases hfiles
  | ok files =>
    obtain ⟨files', hread'⟩ := hok.1 ⟨files, hread⟩
    obtain ⟨found, hfound, rfl⟩ := readEntries_eq_ok_iff.1 hread
    obtain ⟨found', hfound', rfl⟩ := readEntries_eq_ok_iff.1 hread'
    rw [hread']
    -- what is found at the entries is permuted as they are
    have hmap := h.map fun entry => (readEntry disk isCandidate dir entry).run
    rw [hfound, hfound', List.map_perm_map_iff fun _ _ => Except.ok.inj] at hmap
    exact .files (hmap.filterMap id)

theorem ListingOrder.perm_arrange (order : ListingOrder) (entries : List DirEntry) :
    (order.arrange entries).Perm entries := by
  cases order with
  | asListed => exact .refl entries
  | byName => exact List.mergeSort_perm entries _

/-- **A suite listed again comes to the same files**, or cannot be read either. -/
theorem Relists.sameFiles_readSuite (h : Relists disk disk') :
    SameFiles (readSuite disk order isCandidate dir).run
      (readSuite disk' order isCandidate dir).run := by
  rw [readSuite_run, readSuite_run]
  have hlist : ListsAgain (listSuite disk dir).run (listSuite disk' dir).run :=
    h.listsAgain_listSuite
  generalize (listSuite disk dir).run = listed at hlist
  generalize (listSuite disk' dir).run = listed' at hlist
  cases hlist with
  | fault cause => exact .faults _ _
  | @entries entries entries' hperm =>
    dsimp only
    rw [← h.readEntries_run_eq]
    exact sameFiles_readEntries
      ((order.perm_arrange entries).trans (hperm.trans (order.perm_arrange entries').symm))

/-! ## By name -/

/-- The entries of a directory have distinct names. -/
def NamesDistinct (disk : DiskAccess Id) (dir : Path) : Prop :=
  ∀ entries, (disk.entries dir).run = .ok entries → (entries.map (·.name)).Nodup

theorem pairwise_arrange_byName (entries : List DirEntry) :
    (ListingOrder.byName.arrange entries).Pairwise fun a b => a.name ≤ b.name := by
  have hsorted :=
    List.pairwise_mergeSort ListingOrder.byName_trans ListingOrder.byName_total entries
  exact hsorted.imp fun h => of_decide_eq_true h

/-- Entries with distinct names come in strictly increasing order. -/
theorem pairwise_lt_arrange_byName (h : (entries.map (·.name)).Nodup) :
    (ListingOrder.byName.arrange entries).Pairwise fun a b => a.name < b.name := by
  have hnodup : ((ListingOrder.byName.arrange entries).map (·.name)).Nodup :=
    ((ListingOrder.byName.perm_arrange entries).map _).nodup_iff.2 h
  have hne : (ListingOrder.byName.arrange entries).Pairwise fun a b => a.name ≠ b.name :=
    List.pairwise_map.1 hnodup
  exact (pairwise_arrange_byName entries).imp₂
    (fun _ _ hle hne => (List.le_iff_lt_or_eq.1 hle).resolve_right hne) hne

/-- **Entries with distinct names have one order by name.** -/
theorem arrange_byName_eq_of_perm (h : entries.Perm entries')
    (hdistinct : (entries.map (·.name)).Nodup) :
    ListingOrder.byName.arrange entries = ListingOrder.byName.arrange entries' := by
  refine List.Perm.eq_of_pairwise (fun a b ha hb hab hba => ?_) (pairwise_arrange_byName entries)
    (pairwise_arrange_byName entries')
    ((ListingOrder.byName.perm_arrange entries).trans
      (h.trans (ListingOrder.byName.perm_arrange entries').symm))
  rw [ListingOrder.mem_arrange] at ha hb
  -- two entries of one name are one entry
  exact List.inj_on_of_nodup_map hdistinct ha (h.mem_iff.2 hb) (List.le_antisymm hab hba)

/-- **Read by name, a suite listed again comes to the same result.** -/
theorem Relists.readSuite_byName (h : Relists disk disk') (hdistinct : NamesDistinct disk dir) :
    (readSuite disk .byName isCandidate dir).run =
      (readSuite disk' .byName isCandidate dir).run := by
  rw [readSuite_run, readSuite_run, listSuite_run, listSuite_run, ← h.kind_eq]
  cases (disk.kind dir).run with
  | error cause => rfl
  | ok kind =>
    cases kind with
    | directory =>
      have hlist := h.entries dir
      have hnodup := hdistinct
      unfold NamesDistinct at hnodup
      dsimp only
      generalize (disk.entries dir).run = listed at hlist hnodup
      generalize (disk'.entries dir).run = listed' at hlist
      cases hlist with
      | fault cause => rfl
      | @entries entries entries' hperm =>
        dsimp only
        rw [arrange_byName_eq_of_perm hperm (hnodup entries rfl), h.readEntries_run_eq]
    | file => exact h.readEntries_run_eq
    | link => exact h.readEntries_run_eq
    | special => exact h.readEntries_run_eq

/-- **What the reading of a directory by name comes to**, in terms of its entries in any order. -/
structure ReadsByName {α : Type} (disk : DiskAccess Id) (isCandidate : String → Bool) (dir : Path)
    (entries : List DirEntry) (toFile : SuiteFile → α) (result : Except AuditFault (List α)) :
    Prop where
  /-- On success there is one file for each entry that counts, and the names of the entries strictly
  increase by their bytes. So do the names of the files, where these are text. -/
  yields : ∀ files, result = .ok files → ∃ counting sources,
    (∀ entry, entry ∈ counting ↔ entry ∈ entries ∧ Counts disk isCandidate dir entry) ∧
    counting.Pairwise (fun a b => a.name < b.name) ∧
    List.Forall₂ (YieldsFile disk dir) counting sources ∧ files = sources.map toFile ∧
    ((∀ entry ∈ counting, ∃ text, entry.name = Path.ofText text) →
      sources.Pairwise fun a b => Path.ofText a.name < Path.ofText b.name)
  /-- A fault is that of the entry with the least name among those that have a fitting name and
  cannot be read. -/
  fails : ∀ fault, result = .error fault → ∃ entry ∈ entries, ∃ cause,
    isCandidate entry.shownName = true ∧ CannotRead disk (Path.entry dir entry.name) entry cause ∧
    fault = .readSuiteFile (Path.entry dir entry.name) cause ∧
    ∀ other ∈ entries, isCandidate other.shownName = true →
      ¬ CanRead disk (Path.entry dir other.name) other → entry.name ≤ other.name

/-- The files of entries whose names are text have these names. -/
theorem map_name_of_yieldsFile {files : List SuiteFile}
    (h : List.Forall₂ (YieldsFile disk dir) entries files)
    (htext : ∀ entry ∈ entries, ∃ text, entry.name = Path.ofText text) :
    files.map (fun file => Path.ofText file.name) = entries.map (·.name) := by
  induction h with
  | nil => rfl
  | @cons entry file entries files hyields _ ih =>
    obtain ⟨⟨text, hname⟩, hrest⟩ := List.forall_mem_cons.1 htext
    have hshown : file.name = text := by
      rw [hyields.1, DirEntry.shownName, hname, Path.shown_ofText]
    rw [List.map_cons, List.map_cons, ih hrest, hshown, hname]

/-- The first fault by name is the one with the least name. -/
theorem exists_least_of_readEntries {fault : AuditFault}
    (h : (readEntries disk isCandidate dir
      (ListingOrder.byName.arrange entries)).run = .error fault) :
    ∃ entry ∈ entries, ∃ cause, isCandidate entry.shownName = true ∧
      CannotRead disk (Path.entry dir entry.name) entry cause ∧
      fault = .readSuiteFile (Path.entry dir entry.name) cause ∧
      ∀ other ∈ entries, isCandidate other.shownName = true →
        ¬ CanRead disk (Path.entry dir other.name) other → entry.name ≤ other.name := by
  obtain ⟨before, entry, after, hsplit, hbefore, hread⟩ := readEntries_eq_error_iff.1 h
  obtain ⟨hname, cause, hcannot, rfl⟩ := readEntry_eq_error_iff.1 hread
  have hmem : ∀ other, other ∈ entries ↔ other ∈ before ++ entry :: after := fun other => by
    rw [← hsplit, ListingOrder.mem_arrange]
  have hsorted := pairwise_arrange_byName entries
  rw [hsplit, List.pairwise_append, List.pairwise_cons] at hsorted
  refine ⟨entry, (hmem entry).2 (by simp), cause, hname, hcannot, rfl, ?_⟩
  intro other hother hfits hnot
  rcases List.mem_append.1 ((hmem other).1 hother) with hother | hother
  · -- what comes before the fault can be read
    exact absurd (exists_readEntry_ok_iff.1 (hbefore other hother) hfits) hnot
  · rcases List.mem_cons.1 hother with rfl | hother
    · exact List.le_refl _
    · exact hsorted.2.1.1 other hother

/-- **A directory is read by name** in the order of its names, whatever the order of its listing. -/
theorem IsListing.readsByName {α : Type} (h : IsListing disk dir entries)
    (hdistinct : NamesDistinct disk dir) (toFile : SuiteFile → α) :
    ReadsByName disk isCandidate dir entries toFile
      ((readSuite disk .byName isCandidate dir).run.map (List.map toFile)) := by
  classical
  rw [h.readSuite_run]
  refine ⟨fun files hfiles => ?_, fun fault hfault =>
    exists_least_of_readEntries (map_eq_error_iff.1 hfault)⟩
  obtain ⟨sources, hsources, rfl⟩ := map_eq_ok_iff.1 hfiles
  have hyields := forall₂_of_readEntries hsources
  have hincreasing := (pairwise_lt_arrange_byName (hdistinct entries h.entries_eq)).filter
    fun entry => Counts disk isCandidate dir entry
  refine ⟨_, sources, fun entry => ?_, hincreasing, hyields, rfl, fun htext => ?_⟩
  · rw [List.mem_filter, ListingOrder.mem_arrange, decide_eq_true_iff]
  · have hnames := map_name_of_yieldsFile hyields htext
    have hpairs := List.pairwise_map.2 hincreasing
    rw [← hnames] at hpairs
    exact List.pairwise_map.1 hpairs

end SuiteAudit
