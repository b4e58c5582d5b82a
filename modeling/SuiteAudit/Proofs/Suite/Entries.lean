import SuiteAudit.Disk.Tree
import SuiteAudit.Proofs.Segments
import SuiteAudit.Proofs.Suite.Reading
/-!
# Suites — entry by entry

The directory of a suite may hold anything: files, directories, links that lead to
either or to nothing, devices. This file says what each entry does to the reading of
the suite. An entry whose name does not fit does nothing at all; of the others, a
link has to lead somewhere, and what is or leads to a regular file has to hold text
(`CanRead`). The first entry in the visiting order that fails this stops the reading,
and the fault names it (`CannotRead`); where none does, every entry that is or leads
to a regular file yields one file and no other entry yields any.

So a suite is told by its entries with a fitting name alone: two directories that
look alike through the naming convention read alike (`readSuite_entryByEntry`).
-/

namespace SuiteAudit

/-! ## Sorting and leaving out -/

section Sorting

variable {α : Type} {le : α → α → Bool}

/-- **Sorting and leaving out can be exchanged**: what is kept of a sorted list is the sorted list
of what is kept. -/
theorem filter_mergeSort (keep : α → Bool)
    (trans : ∀ a b c, le a b = true → le b c = true → le a c = true)
    (total : ∀ a b, (le a b || le b a) = true) (l : List α) :
    (l.mergeSort le).filter keep = (l.filter keep).mergeSort le := by
  induction l with
  | nil => simp
  | cons a l ih =>
    -- the first element goes to its place in the sorted rest
    obtain ⟨before, after, hsort, hrest, hbefore⟩ := List.mergeSort_cons trans total a l
    rw [hrest, List.filter_append] at ih
    rw [hsort, List.filter_append]
    cases ha : keep a with
    | false => simpa [ha] using ih
    | true =>
      obtain ⟨before', after', hsort', hrest', hbefore'⟩ :=
        List.mergeSort_cons trans total a (l.filter keep)
      have hafter : ∀ b ∈ after, le a b = true := by
        have hsorted := List.pairwise_mergeSort trans total (a :: l)
        rw [hsort, List.pairwise_append, List.pairwise_cons] at hsorted
        exact hsorted.2.1.1
      have hafter' : ∀ b ∈ after', le a b = true := by
        have hsorted := List.pairwise_mergeSort trans total (a :: l.filter keep)
        rw [hsort', List.pairwise_append, List.pairwise_cons] at hsorted
        exact hsorted.2.1.1
      obtain ⟨hleft, hright⟩ := cut_at_mark (ih.trans hrest')
        (fun b hb => by simpa using hbefore b (List.mem_of_mem_filter hb))
        (fun b hb => hafter b (List.mem_of_mem_filter (List.mem_of_mem_head? hb)))
        (fun b hb => by simpa using hbefore' b hb)
        (fun b hb => hafter' b (List.mem_of_mem_head? hb))
      rw [List.filter_cons_of_pos ha, List.filter_cons_of_pos ha, hsort', hleft, hright]

end Sorting

/-! The order of names is a total order. -/

theorem ListingOrder.byName_trans (a b c : DirEntry) (hab : decide (a.name ≤ b.name) = true)
    (hbc : decide (b.name ≤ c.name) = true) : decide (a.name ≤ c.name) = true := by
  rw [decide_eq_true_eq] at hab hbc ⊢
  exact List.le_trans hab hbc

theorem ListingOrder.byName_total (a b : DirEntry) :
    (decide (a.name ≤ b.name) || decide (b.name ≤ a.name)) = true := by
  simp only [Bool.or_eq_true, decide_eq_true_eq]
  exact List.le_total _ _

/-- The visiting order of some of the entries is that of all of them. -/
theorem ListingOrder.filter_arrange (order : ListingOrder) (keep : DirEntry → Bool)
    (entries : List DirEntry) :
    (order.arrange entries).filter keep = order.arrange (entries.filter keep) := by
  cases order with
  | asListed => rfl
  | byName => exact filter_mergeSort keep byName_trans byName_total entries

variable {disk disk' : DiskAccess Id} {isCandidate : String → Bool} {dir dir' path : Path}
variable {entry : DirEntry} {entries entries' : List DirEntry} {file : SuiteFile}
variable {files : List SuiteFile} {order : ListingOrder} {fault : AuditFault} {cause : DiskFault}

/-! ## What can be read -/

/-- A path leads to a text: what it leads to holds the bytes that spell the text. -/
def HoldsText (disk : DiskAccess Id) (path : Path) (text : String) : Prop :=
  (disk.contents path).run = .ok text.toUTF8

/-- Bytes are read as the text that they spell. -/
theorem fromUTF8?_eq_some_iff {bytes : ByteArray} {text : String} :
    String.fromUTF8? bytes = some text ↔ bytes = text.toUTF8 := by
  unfold String.fromUTF8?
  split
  · constructor
    · rintro h
      obtain rfl := Option.some.inj h
      rfl
    · rintro rfl
      rfl
  · rename_i hinvalid
    refine iff_of_false (by simp) ?_
    rintro rfl
    exact hinvalid text.isValidUTF8

/-- Reading a text asks for the bytes and then whether they spell one. -/
theorem readText_run :
    (disk.readText path).run =
      match (disk.contents path).run with
      | .error fault => .error fault
      | .ok bytes =>
        match String.fromUTF8? bytes with
        | some text => .ok text
        | none => .error .notText := by
  rw [DiskAccess.readText, Id.run_bind]
  cases (disk.contents path).run with
  | error fault => rfl
  | ok bytes =>
    dsimp only
    cases String.fromUTF8? bytes <;> rfl

theorem readText_eq_ok_iff {text : String} :
    (disk.readText path).run = .ok text ↔ HoldsText disk path text := by
  rw [readText_run, HoldsText]
  cases (disk.contents path).run with
  | error fault => simp
  | ok bytes =>
    rw [Except.ok.injEq, ← fromUTF8?_eq_some_iff]
    dsimp only
    cases String.fromUTF8? bytes <;> simp

/-- A text cannot be read where the bytes cannot be had or spell none. -/
theorem readText_eq_error_iff :
    (disk.readText path).run = .error cause ↔
      (disk.contents path).run = .error cause ∨
        ∃ bytes, (disk.contents path).run = .ok bytes ∧ ¬ bytes.IsValidUTF8 ∧
          cause = .notText := by
  rw [readText_run]
  cases (disk.contents path).run with
  | error fault => simp
  | ok bytes =>
    unfold String.fromUTF8?
    by_cases hvalid : bytes.IsValidUTF8
    · simp [hvalid]
    · simp [hvalid, eq_comm]

/-- The kind of an entry cannot be told only if it is a link that leads nowhere. -/
theorem isRegularFile_eq_error_iff :
    (isRegularFile disk path entry).run = .error fault ↔
      entry.kind = .link ∧ ∃ cause, (disk.kind path).run = .error cause ∧
        fault = .readSuiteFile path cause := by
  obtain ⟨name, kind⟩ := entry
  cases kind with
  | link =>
    rw [isRegularFile_link_run]
    cases (disk.kind path).run <;> simp [eq_comm]
  | file => simp [isRegularFile]
  | directory => simp [isRegularFile]
  | special => simp [isRegularFile]

/-- **An entry can be read**: if it is a link, it leads somewhere, and if it is a regular file or
leads to one, the file holds text. -/
structure CanRead (disk : DiskAccess Id) (path : Path) (entry : DirEntry) : Prop where
  resolves : entry.kind = .link → ∃ kind, (disk.kind path).run = .ok kind
  holdsText : LeadsToFile disk path entry → ∃ text, HoldsText disk path text

/-- **Why an entry cannot be read.** -/
inductive CannotRead (disk : DiskAccess Id) (path : Path) (entry : DirEntry) : DiskFault → Prop
  /-- It is a link that leads nowhere. -/
  | unresolved {cause : DiskFault} : entry.kind = .link → (disk.kind path).run = .error cause →
      CannotRead disk path entry cause
  /-- It is or leads to a regular file, and the disk does not give its contents away. -/
  | refused {cause : DiskFault} : LeadsToFile disk path entry →
      (disk.contents path).run = .error cause → CannotRead disk path entry cause
  /-- It is or leads to a regular file whose contents are no text. -/
  | noText {bytes : ByteArray} : LeadsToFile disk path entry →
      (disk.contents path).run = .ok bytes → ¬ bytes.IsValidUTF8 →
      CannotRead disk path entry .notText

/-- What stops the check of the kind, and what stops the reading after it. -/
theorem cannotRead_iff :
    CannotRead disk path entry cause ↔
      (isRegularFile disk path entry).run = .error (.readSuiteFile path cause) ∨
        (isRegularFile disk path entry).run = .ok true ∧
          (disk.readText path).run = .error cause := by
  rw [isRegularFile_eq_true_iff, readText_eq_error_iff, isRegularFile_eq_error_iff]
  constructor
  · intro h
    cases h with
    | unresolved hlink hcause => exact .inl ⟨hlink, cause, hcause, rfl⟩
    | refused hfile hcause => exact .inr ⟨hfile, .inl hcause⟩
    | noText hfile hbytes hinvalid => exact .inr ⟨hfile, .inr ⟨_, hbytes, hinvalid, rfl⟩⟩
  · rintro (⟨hlink, cause', hcause, hfault⟩ | ⟨hfile, hcause | ⟨bytes, hbytes, hinvalid, rfl⟩⟩)
    · obtain ⟨-, rfl⟩ := AuditFault.readSuiteFile.inj hfault
      exact .unresolved hlink hcause
    · exact .refused hfile hcause
    · exact .noText hfile hbytes hinvalid

/-- An entry can be read exactly if nothing stops its reading. -/
theorem canRead_iff : CanRead disk path entry ↔ ∀ cause, ¬ CannotRead disk path entry cause := by
  constructor
  · rintro ⟨hresolves, htext⟩ cause hcannot
    cases hcannot with
    | unresolved hlink hcause =>
      obtain ⟨kind, hkind⟩ := hresolves hlink
      rw [hkind] at hcause
      cases hcause
    | refused hfile hcause =>
      obtain ⟨text, hholds⟩ := htext hfile
      rw [hholds] at hcause
      cases hcause
    | noText hfile hbytes hinvalid =>
      obtain ⟨text, hholds⟩ := htext hfile
      obtain rfl := Except.ok.inj (hholds.symm.trans hbytes)
      exact hinvalid text.isValidUTF8
  · intro h
    refine ⟨fun hlink => ?_, fun hfile => ?_⟩
    · cases hkind : (disk.kind path).run with
      | error cause => exact absurd (.unresolved hlink hkind) (h cause)
      | ok kind => exact ⟨kind, rfl⟩
    · cases htext : (disk.readText path).run with
      | error cause =>
        exact absurd (cannotRead_iff.2 (.inr ⟨isRegularFile_eq_true_iff.2 hfile, htext⟩)) (h cause)
      | ok text => exact ⟨text, readText_eq_ok_iff.1 htext⟩

/-! ## What an entry does -/

/-- **An entry with a fitting name that cannot be read is a fault**, and nothing else is. -/
theorem readEntry_eq_error_iff :
    (readEntry disk isCandidate dir entry).run = .error fault ↔
      isCandidate entry.shownName = true ∧
        ∃ cause, CannotRead disk (Path.entry dir entry.name) entry cause ∧
          fault = .readSuiteFile (Path.entry dir entry.name) cause := by
  rw [readEntry_run]
  simp only [cannotRead_iff]
  cases isCandidate entry.shownName with
  | false => simp
  | true =>
    cases hkind : (isRegularFile disk (Path.entry dir entry.name) entry).run with
    | error fault' =>
      obtain ⟨-, cause, -, rfl⟩ := isRegularFile_eq_error_iff.1 hkind
      simp [eq_comm]
    | ok regular =>
      cases regular with
      | false => simp
      | true => cases (disk.readText (Path.entry dir entry.name)).run <;> simp [eq_comm]

/-- Every entry with a fitting name can be read exactly if no entry is a fault. -/
theorem exists_readEntry_ok_iff :
    (∃ file?, (readEntry disk isCandidate dir entry).run = .ok file?) ↔
      (isCandidate entry.shownName = true →
        CanRead disk (Path.entry dir entry.name) entry) := by
  constructor
  · rintro ⟨file?, hread⟩ hname
    refine canRead_iff.2 fun cause hcannot => ?_
    rw [readEntry_eq_error_iff.2 ⟨hname, cause, hcannot, rfl⟩] at hread
    cases hread
  · intro h
    cases hread : (readEntry disk isCandidate dir entry).run with
    | ok file? => exact ⟨file?, rfl⟩
    | error fault =>
      obtain ⟨hname, cause, hcannot, -⟩ := readEntry_eq_error_iff.1 hread
      exact absurd hcannot (canRead_iff.1 (h hname) cause)

/-- An entry counts: its name fits, and it is or leads to a regular file. -/
def Counts (disk : DiskAccess Id) (isCandidate : String → Bool) (dir : Path) (entry : DirEntry) :
    Prop :=
  isCandidate entry.shownName = true ∧ LeadsToFile disk (Path.entry dir entry.name) entry

/-- The file that an entry yields: it has the name of the entry, also where the entry is a link to
a file of another name, and the text that the entry leads to. -/
def YieldsFile (disk : DiskAccess Id) (dir : Path) (entry : DirEntry) (file : SuiteFile) : Prop :=
  file.name = entry.shownName ∧ HoldsText disk (Path.entry dir entry.name) file.source

theorem readEntry_eq_some_iff_counts :
    (readEntry disk isCandidate dir entry).run = .ok (some file) ↔
      Counts disk isCandidate dir entry ∧ YieldsFile disk dir entry file := by
  rw [readEntry_eq_some_iff, readText_eq_ok_iff, Counts, YieldsFile, and_assoc]

/-- An entry that yields no file and is no fault either. -/
theorem readEntry_eq_none_iff :
    (readEntry disk isCandidate dir entry).run = .ok none ↔
      (isCandidate entry.shownName = true → CanRead disk (Path.entry dir entry.name) entry) ∧
        ¬ Counts disk isCandidate dir entry := by
  rw [← exists_readEntry_ok_iff]
  constructor
  · intro hread
    refine ⟨⟨none, hread⟩, fun hcounts => ?_⟩
    -- an entry that counts and can be read yields a file
    have hcan := exists_readEntry_ok_iff.1 ⟨none, hread⟩ hcounts.1
    obtain ⟨text, htext⟩ := hcan.holdsText hcounts.2
    have hsome : (readEntry disk isCandidate dir entry).run = .ok (some ⟨_, text⟩) :=
      readEntry_eq_some_iff_counts.2 ⟨hcounts, rfl, htext⟩
    rw [hread] at hsome
    cases hsome
  · rintro ⟨⟨file?, hread⟩, hnot⟩
    cases file? with
    | none => exact hread
    | some file => exact absurd (readEntry_eq_some_iff_counts.1 hread).1 hnot

/-! ## What the entries do together -/

/-- A fault at the first entry is the fault of the reading. -/
theorem readEntries_cons_of_error (h : (readEntry disk isCandidate dir entry).run = .error fault) :
    (readEntries disk isCandidate dir (entry :: entries)).run = .error fault := by
  rw [readEntries_cons_run, h]

/-- Where there is none, the reading goes on behind the entry. -/
theorem readEntries_cons_of_ok {file? : Option SuiteFile}
    (h : (readEntry disk isCandidate dir entry).run = .ok file?) :
    (readEntries disk isCandidate dir (entry :: entries)).run =
      (readEntries disk isCandidate dir entries).run.map (file?.toList ++ ·) := by
  rw [readEntries_cons_run, h]
  cases (readEntries disk isCandidate dir entries).run <;> rfl

section Map

variable {ε α β : Type} {f : α → β} {result : Except ε α}

theorem map_eq_ok_iff {b : β} : result.map f = .ok b ↔ ∃ a, result = .ok a ∧ f a = b := by
  cases result <;> simp [Except.map]

theorem map_eq_error_iff {e : ε} : result.map f = .error e ↔ result = .error e := by
  cases result <;> simp [Except.map]

end Map

open scoped Classical in
/-- **Reading that succeeds yields a file for each entry that counts**, in the order of the entries,
and nothing else. -/
theorem forall₂_of_readEntries (h : (readEntries disk isCandidate dir entries).run = .ok files) :
    List.Forall₂ (YieldsFile disk dir)
      (entries.filter fun entry => Counts disk isCandidate dir entry) files := by
  induction entries generalizing files with
  | nil =>
    obtain rfl : files = [] := (Except.ok.inj h).symm
    exact .nil
  | cons entry entries ih =>
    cases hread : (readEntry disk isCandidate dir entry).run with
    | error fault =>
      rw [readEntries_cons_of_error hread] at h
      cases h
    | ok file? =>
      rw [readEntries_cons_of_ok hread] at h
      obtain ⟨more, hmore, rfl⟩ := map_eq_ok_iff.1 h
      -- the entry counts exactly if it yields a file
      cases file? with
      | some file =>
        obtain ⟨hcounts, hyields⟩ := readEntry_eq_some_iff_counts.1 hread
        rw [List.filter_cons_of_pos (by simpa using hcounts)]
        exact .cons hyields (ih hmore)
      | none =>
        have hnot := (readEntry_eq_none_iff.1 hread).2
        rw [List.filter_cons_of_neg (by simpa using hnot)]
        exact ih hmore

/-- **Reading stops at the first entry that is a fault.** -/
theorem readEntries_eq_error_iff :
    (readEntries disk isCandidate dir entries).run = .error fault ↔
      ∃ before entry after, entries = before ++ entry :: after ∧
        (∀ e ∈ before, ∃ file?, (readEntry disk isCandidate dir e).run = .ok file?) ∧
        (readEntry disk isCandidate dir entry).run = .error fault := by
  induction entries with
  | nil =>
    have hrun : (readEntries disk isCandidate dir []).run = .ok [] := rfl
    simp [hrun]
  | cons first rest ih =>
    cases hread : (readEntry disk isCandidate dir first).run with
    | error fault' =>
      -- the reading stops here, so that nothing comes before the fault
      rw [readEntries_cons_of_error hread]
      constructor
      · intro h
        obtain rfl := Except.error.inj h
        exact ⟨[], first, rest, rfl, by simp, hread⟩
      · rintro ⟨_ | ⟨e, before⟩, entry, after, hsplit, hbefore, hfault⟩
        · obtain ⟨rfl, -⟩ := List.cons.inj hsplit
          obtain rfl := Except.error.inj (hread.symm.trans hfault)
          rfl
        · obtain ⟨rfl, -⟩ := List.cons.inj hsplit
          obtain ⟨file?, hok⟩ := hbefore first (by simp)
          rw [hread] at hok
          cases hok
    | ok file? =>
      -- the fault is one of the entries behind
      rw [readEntries_cons_of_ok hread, map_eq_error_iff, ih]
      constructor
      · rintro ⟨before, entry, after, rfl, hbefore, hfault⟩
        exact ⟨first :: before, entry, after, rfl,
          List.forall_mem_cons.2 ⟨⟨file?, hread⟩, hbefore⟩, hfault⟩
      · rintro ⟨_ | ⟨e, before⟩, entry, after, hsplit, hbefore, hfault⟩
        · obtain ⟨rfl, -⟩ := List.cons.inj hsplit
          rw [hread] at hfault
          cases hfault
        · obtain ⟨rfl, rfl⟩ := List.cons.inj hsplit
          exact ⟨before, entry, after, rfl, (List.forall_mem_cons.1 hbefore).2, hfault⟩

/-- Reading succeeds exactly if no entry is a fault. -/
theorem exists_readEntries_ok_iff :
    (∃ files, (readEntries disk isCandidate dir entries).run = .ok files) ↔
      ∀ entry ∈ entries, ∃ file?, (readEntry disk isCandidate dir entry).run = .ok file? := by
  induction entries with
  | nil => exact iff_of_true ⟨[], rfl⟩ (by simp)
  | cons entry entries ih =>
    rw [List.forall_mem_cons, ← ih]
    cases hread : (readEntry disk isCandidate dir entry).run with
    | error fault =>
      rw [readEntries_cons_of_error hread]
      simp
    | ok file? =>
      rw [readEntries_cons_of_ok hread]
      simp [map_eq_ok_iff]

/-- An entry whose name does not fit is passed over, whatever it is. -/
theorem readEntries_filter :
    (readEntries disk isCandidate dir
        (entries.filter fun entry => isCandidate entry.shownName)).run =
      (readEntries disk isCandidate dir entries).run := by
  induction entries with
  | nil => rfl
  | cons entry entries ih =>
    rw [List.filter_cons]
    split
    · rw [readEntries_cons_run, readEntries_cons_run, ih]
    · rename_i hname
      have hnone : (readEntry disk isCandidate dir entry).run = .ok none := by
        rw [readEntry_run, if_pos (by simpa using hname)]
      rw [readEntries_cons_of_ok hnone, ih]
      cases (readEntries disk isCandidate dir entries).run <;> rfl

/-! ## Directories that look alike -/

/-- Two disks say the same about an entry: where it leads if it is a link, and what it holds if it
is or leads to a regular file. -/
structure SaysTheSame (disk disk' : DiskAccess Id) (path path' : Path) (entry : DirEntry) :
    Prop where
  kind_eq : entry.kind = .link → (disk.kind path).run = (disk'.kind path').run
  contents_eq : LeadsToFile disk path entry → (disk.contents path).run = (disk'.contents path').run

namespace SaysTheSame

variable {path' : Path}

theorem leadsToFile_iff (h : SaysTheSame disk disk' path path' entry) :
    LeadsToFile disk path entry ↔ LeadsToFile disk' path' entry := by
  refine or_congr_right (and_congr_right fun hlink => ?_)
  rw [h.kind_eq hlink]

theorem symm (h : SaysTheSame disk disk' path path' entry) :
    SaysTheSame disk' disk path' path entry :=
  ⟨fun hlink => (h.kind_eq hlink).symm,
    fun hfile => (h.contents_eq (h.leadsToFile_iff.2 hfile)).symm⟩

theorem cannotRead (h : SaysTheSame disk disk' path path' entry)
    (hcannot : CannotRead disk path entry cause) : CannotRead disk' path' entry cause := by
  cases hcannot with
  | unresolved hlink hcause => exact .unresolved hlink (h.kind_eq hlink ▸ hcause)
  | refused hfile hcause =>
    exact .refused (h.leadsToFile_iff.1 hfile) (h.contents_eq hfile ▸ hcause)
  | noText hfile hbytes hinvalid =>
    exact .noText (h.leadsToFile_iff.1 hfile) (h.contents_eq hfile ▸ hbytes) hinvalid

theorem canRead (h : SaysTheSame disk disk' path path' entry) (hcan : CanRead disk path entry) :
    CanRead disk' path' entry :=
  canRead_iff.2 fun cause hcannot => canRead_iff.1 hcan cause (h.symm.cannotRead hcannot)

end SaysTheSame

/-- **Two directories read alike**: to the same files, or to the same fault at an entry of the same
name. -/
inductive ReadsAlike {α : Type} (dir dir' : Path) :
    Except AuditFault α → Except AuditFault α → Prop
  | ok (a : α) : ReadsAlike dir dir' (.ok a) (.ok a)
  | fault (name : EntryName) (cause : DiskFault) :
      ReadsAlike dir dir' (.error (.readSuiteFile (Path.entry dir name) cause))
        (.error (.readSuiteFile (Path.entry dir' name) cause))

/-- In one directory only equals read alike. -/
theorem ReadsAlike.eq {α : Type} {a b : Except AuditFault α} (h : ReadsAlike dir dir a b) :
    a = b := by
  cases h with
  | ok a => rfl
  | fault name cause => rfl

theorem ReadsAlike.map {α β : Type} {f : α → β} {a b : Except AuditFault α}
    (h : ReadsAlike dir dir' a b) : ReadsAlike dir dir' (a.map f) (b.map f) := by
  cases h with
  | ok a => exact .ok (f a)
  | fault name cause => exact .fault name cause

/-- An entry about which two disks say the same reads alike. -/
theorem readsAlike_readEntry
    (h : isCandidate entry.shownName = true →
      SaysTheSame disk disk' (Path.entry dir entry.name) (Path.entry dir' entry.name) entry) :
    ReadsAlike dir dir' (readEntry disk isCandidate dir entry).run
      (readEntry disk' isCandidate dir' entry).run := by
  cases hread : (readEntry disk isCandidate dir entry).run with
  | error fault =>
    obtain ⟨hname, cause, hcannot, rfl⟩ := readEntry_eq_error_iff.1 hread
    rw [readEntry_eq_error_iff.2 ⟨hname, cause, (h hname).cannotRead hcannot, rfl⟩]
    exact .fault entry.name cause
  | ok file? =>
    cases file? with
    | some file =>
      obtain ⟨⟨hname, hfile⟩, hyields, htext⟩ := readEntry_eq_some_iff_counts.1 hread
      have hcounts : Counts disk' isCandidate dir' entry :=
        ⟨hname, (h hname).leadsToFile_iff.1 hfile⟩
      have htext' : HoldsText disk' (Path.entry dir' entry.name) file.source :=
        ((h hname).contents_eq hfile).symm.trans htext
      rw [readEntry_eq_some_iff_counts.2 ⟨hcounts, hyields, htext'⟩]
      exact .ok (some file)
    | none =>
      -- the entry does not count on one disk, and so not on the other
      obtain ⟨hcan, hnot⟩ := readEntry_eq_none_iff.1 hread
      have hnot' : ¬ Counts disk' isCandidate dir' entry :=
        fun hcounts => hnot ⟨hcounts.1, (h hcounts.1).leadsToFile_iff.2 hcounts.2⟩
      rw [readEntry_eq_none_iff.2 ⟨fun hname => (h hname).canRead (hcan hname), hnot'⟩]
      exact .ok none

/-- And so do entries. -/
theorem readsAlike_readEntries
    (h : ∀ entry ∈ entries, isCandidate entry.shownName = true →
      SaysTheSame disk disk' (Path.entry dir entry.name) (Path.entry dir' entry.name) entry) :
    ReadsAlike dir dir' (readEntries disk isCandidate dir entries).run
      (readEntries disk' isCandidate dir' entries).run := by
  induction entries with
  | nil => exact .ok []
  | cons entry entries ih =>
    have hentry := readsAlike_readEntry (h entry (by simp))
    have hentries := ih fun e he => h e (by simp [he])
    cases hread : (readEntry disk isCandidate dir entry).run with
    | error fault =>
      rw [hread] at hentry
      generalize hread' : (readEntry disk' isCandidate dir' entry).run = read' at hentry
      cases hentry with
      | fault name cause =>
        rw [readEntries_cons_of_error hread, readEntries_cons_of_error hread']
        exact .fault name cause
    | ok file? =>
      rw [hread] at hentry
      generalize hread' : (readEntry disk' isCandidate dir' entry).run = read' at hentry
      cases hentry with
      | ok =>
        rw [readEntries_cons_of_ok hread, readEntries_cons_of_ok hread']
        exact hentries.map

/-! ## Suites -/

/-- A path leads to a directory that the disk lists. -/
structure IsListing (disk : DiskAccess Id) (dir : Path) (entries : List DirEntry) : Prop where
  kind_eq : (disk.kind dir).run = .ok .directory
  entries_eq : (disk.entries dir).run = .ok entries

theorem IsListing.readSuite_run (h : IsListing disk dir entries) :
    (readSuite disk order isCandidate dir).run =
      (readEntries disk isCandidate dir (order.arrange entries)).run := by
  rw [SuiteAudit.readSuite_run, listSuite_run, h.kind_eq]
  dsimp only
  rw [h.entries_eq]

/-- A directory is read by its entries with a fitting name alone. -/
theorem IsListing.readSuite_run_filter (h : IsListing disk dir entries) :
    (readSuite disk order isCandidate dir).run =
      (readEntries disk isCandidate dir
        (order.arrange (entries.filter fun entry => isCandidate entry.shownName))).run := by
  rw [h.readSuite_run, ← readEntries_filter, ListingOrder.filter_arrange]

/-- **Two directories look alike** through a naming convention: they have the same entries with a
fitting name, in the same order, and the disks say the same about each of them. -/
structure LooksAlike (isCandidate : String → Bool) (disk disk' : DiskAccess Id) (dir dir' : Path)
    (entries entries' : List DirEntry) : Prop where
  entries_eq : (entries.filter fun entry => isCandidate entry.shownName) =
    entries'.filter fun entry => isCandidate entry.shownName
  answers : ∀ entry ∈ entries, isCandidate entry.shownName = true →
    SaysTheSame disk disk' (Path.entry dir entry.name) (Path.entry dir' entry.name) entry

open scoped Classical in
/-- **What the reading of a directory comes to.** -/
structure ReadsEntries (disk : DiskAccess Id) (order : ListingOrder) (isCandidate : String → Bool)
    (dir : Path) (entries : List DirEntry) (result : Except AuditFault (List SuiteFile)) :
    Prop where
  /-- It succeeds exactly if every entry with a fitting name can be read. -/
  succeeds_iff : (∃ files, result = .ok files) ↔
    ∀ entry ∈ entries, isCandidate entry.shownName = true →
      CanRead disk (Path.entry dir entry.name) entry
  /-- On success there is one file for each entry that counts, in the visiting order. -/
  yields : ∀ files, result = .ok files →
    List.Forall₂ (YieldsFile disk dir)
      ((order.arrange entries).filter fun entry => Counts disk isCandidate dir entry) files
  /-- A fault is that of the first entry in the visiting order that has a fitting name and cannot be
  read. -/
  fails : ∀ fault, result = .error fault → ∃ before entry after cause,
    order.arrange entries = before ++ entry :: after ∧
    (∀ e ∈ before, isCandidate e.shownName = true → CanRead disk (Path.entry dir e.name) e) ∧
    isCandidate entry.shownName = true ∧ CannotRead disk (Path.entry dir entry.name) entry cause ∧
    fault = .readSuiteFile (Path.entry dir entry.name) cause

/-- **A suite is read entry by entry**, and nothing but the entries with a fitting name counts:
another directory that looks alike reads alike. -/
theorem readSuite_entryByEntry (disk : DiskAccess Id) (order : ListingOrder)
    (isCandidate : String → Bool) (dir : Path) (entries : List DirEntry)
    (h : IsListing disk dir entries) :
    ReadsEntries disk order isCandidate dir entries (readSuite disk order isCandidate dir).run ∧
      ∀ (disk' : DiskAccess Id) (dir' : Path) (entries' : List DirEntry),
        IsListing disk' dir' entries' →
        LooksAlike isCandidate disk disk' dir dir' entries entries' →
        ReadsAlike dir dir' (readSuite disk order isCandidate dir).run
          (readSuite disk' order isCandidate dir').run := by
  refine ⟨?_, fun disk' dir' entries' h' hlooks => ?_⟩
  · rw [h.readSuite_run]
    refine ⟨?_, fun files hfiles => forall₂_of_readEntries hfiles, fun fault hfault => ?_⟩
    · simp only [exists_readEntries_ok_iff, exists_readEntry_ok_iff, ListingOrder.mem_arrange]
    · obtain ⟨before, entry, after, hsplit, hbefore, hread⟩ := readEntries_eq_error_iff.1 hfault
      obtain ⟨hname, cause, hcannot, rfl⟩ := readEntry_eq_error_iff.1 hread
      exact ⟨before, entry, after, cause, hsplit,
        fun e he => exists_readEntry_ok_iff.1 (hbefore e he), hname, hcannot, rfl⟩
  · -- only the entries with a fitting name are left, and they are the same
    rw [h.readSuite_run_filter, h'.readSuite_run_filter, ← hlooks.entries_eq]
    refine readsAlike_readEntries fun entry hentry hname => ?_
    rw [ListingOrder.mem_arrange, List.mem_filter] at hentry
    exact hlooks.answers entry hentry.1 hname

/-! ### A directory of every sort -/

/-- The directory that the disk below has. -/
def mixedDir : Path := Path.ofText "suite"

/-- A disk with one directory, which holds a file, a link to it, a directory and some more. -/
def mixedDisk (more : List (EntryName × Node)) : Disk where
  root := .directory [(mixedDir, .directory ([
    (Path.ofText "test_b", .file "def test_x(".toUTF8),
    (Path.ofText "test_a", .link (Path.ofText "test_b")),
    (Path.ofText "test_d", .directory [])] ++ more))]
  current := []

/-- What the disk lists. -/
def mixedEntries : List DirEntry :=
  [⟨Path.ofText "test_b", .file⟩, ⟨Path.ofText "test_a", .link⟩, ⟨Path.ofText "test_d", .directory⟩]

/-- A link that leads nowhere, under a name that does not fit. -/
def strayLink : EntryName × Node :=
  (Path.ofText "README", .link (Path.ofText "nowhere"))

/-- The directory is read entry by entry, and the stray link in it does not matter. -/
theorem readSuite_mixedDisk :
    IsListing (mixedDisk [strayLink]).access mixedDir (mixedEntries ++ [⟨strayLink.1, .link⟩]) ∧
      ReadsEntries (mixedDisk [strayLink]).access .byName (isReferenceName "test_") mixedDir
        (mixedEntries ++ [⟨strayLink.1, .link⟩])
        (readSuite (mixedDisk [strayLink]).access .byName (isReferenceName "test_") mixedDir).run ∧
      (readSuite (mixedDisk [strayLink]).access .byName (isReferenceName "test_") mixedDir).run =
        (readSuite (mixedDisk []).access .byName (isReferenceName "test_") mixedDir).run := by
  have hlisting : IsListing (mixedDisk [strayLink]).access mixedDir
      (mixedEntries ++ [⟨strayLink.1, .link⟩]) := ⟨by decide +kernel, by decide +kernel⟩
  have hlisting' : IsListing (mixedDisk []).access mixedDir mixedEntries :=
    ⟨by decide +kernel, by decide +kernel⟩
  have hread := readSuite_entryByEntry (mixedDisk [strayLink]).access .byName
    (isReferenceName "test_") mixedDir (mixedEntries ++ [⟨strayLink.1, .link⟩]) hlisting
  refine ⟨hlisting, hread.1, (hread.2 _ _ _ hlisting' ⟨by decide +kernel, ?_⟩).eq⟩
  intro entry hentry hname
  simp only [mixedEntries, List.cons_append, List.nil_append, List.mem_cons, List.not_mem_nil,
    or_false] at hentry
  rcases hentry with rfl | rfl | rfl | rfl <;>
    exact ⟨fun _ => by decide +kernel, fun _ => by decide +kernel⟩

end SuiteAudit
