import SuiteAudit.Proofs.Report.Outline
import SuiteAudit.Proofs.Run.SuiteSetting
import SuiteAudit.Proofs.Suite.Relisting
/-!
# Run — the order of listing

The order in which a disk lists the two suites is not part of what an audit is about.
Where the files are visited as they are listed, the order shows: sections come in
another order, and a test that several places cover may be reported with another one
of them. It shows nowhere else, and decides nothing (`listingOrder_immaterial`).
Where the files are visited by name, it does not show at all (`byName_canonical`).
-/

namespace SuiteAudit

variable {disk disk' : DiskAccess Id} {settings : Settings} {test : String} {place : Coverage}

/-! ## Loading from listings in another order -/

theorem Relists.loadIgnored_run_eq (h : Relists disk disk') :
    (settings.loadIgnored disk).run = (settings.loadIgnored disk').run := by
  rw [Settings.loadIgnored, Settings.loadIgnored]
  cases settings.ignorePath with
  | none => rfl
  | some path =>
    dsimp only
    rw [IgnoreSet.ofFile_run, IgnoreSet.ofFile_run, h.readText_run_eq]

theorem Relists.sameFiles_loadReference (h : Relists disk disk') :
    SameFiles (settings.loadReference disk).run (settings.loadReference disk').run := by
  rw [Settings.loadReference, Settings.loadReference, scanReference_run, scanReference_run]
  exact h.sameFiles_readSuite.map _

theorem Relists.sameFiles_loadComparison (h : Relists disk disk') :
    SameFiles (settings.loadComparison disk).run (settings.loadComparison disk').run := by
  rw [Settings.loadComparison, Settings.loadComparison, scanComparison_run, scanComparison_run]
  exact h.sameFiles_readSuite.map _

theorem Relists.scanReference_byName {dir : Path} (h : Relists disk disk')
    (hdistinct : NamesDistinct disk dir) (lead : String) :
    (scanReference disk .byName lead dir).run = (scanReference disk' .byName lead dir).run := by
  rw [scanReference_run, scanReference_run, h.readSuite_byName hdistinct]

theorem Relists.scanComparison_byName {dir : Path} (h : Relists disk disk')
    (hdistinct : NamesDistinct disk dir) (marker : String) :
    (scanComparison disk .byName marker dir).run =
      (scanComparison disk' .byName marker dir).run := by
  rw [scanComparison_run, scanComparison_run, h.readSuite_byName hdistinct]

/-- **Visited by name, the suites load alike**, down to the notes of progress. -/
theorem Relists.load_byName (h : Relists disk disk') (hsorted : settings.sorted = true)
    (href : NamesDistinct disk settings.referencePath)
    (hcomp : NamesDistinct disk settings.comparisonPath) :
    settings.load disk = settings.load disk' := by
  have horder : settings.order = .byName := by rw [Settings.order, if_pos hsorted]
  have hignored : settings.loadIgnored disk = settings.loadIgnored disk' := h.loadIgnored_run_eq
  have hreference : settings.loadReference disk = settings.loadReference disk' := by
    rw [Settings.loadReference, Settings.loadReference, horder]
    exact h.scanReference_byName href _
  have hcomparison : settings.loadComparison disk = settings.loadComparison disk' := by
    rw [Settings.loadComparison, Settings.loadComparison, horder]
    exact h.scanComparison_byName hcomp _
  simp only [Settings.load, hignored, hreference, hcomparison]

/-! ## What is concluded -/

/-- **A place covers a test**: the comparison suite has a file of that name, and in the file a test
of that label that names the test. -/
def Settings.CoversAt (settings : Settings) (disk : DiskAccess Id) (test : String)
    (place : Coverage) : Prop :=
  ∃ file, InSuite disk (settings.comparisonInfix.toList <:+: ·.toList)
    settings.comparisonPath file ∧
    ∃ t ∈ coveringTests file.source, t.covers = test ∧ place = ⟨file.name, t.label⟩

/-- The place of a covered test covers it. -/
theorem coversAt_of_firstCover {comparison : List ComparisonFile}
    (hload : (settings.loadComparison disk).run = .ok comparison)
    (h : FirstCover comparison test place) : settings.CoversAt disk test place := by
  obtain ⟨files, hfiles, rfl⟩ := scanComparison_eq_ok_iff.1 hload
  obtain ⟨_, hmem, t, ht, hcovers, hplace⟩ := h.exists_mem
  obtain ⟨file, hfile, rfl⟩ := List.mem_map.1 hmem
  exact ⟨file, (mem_readSuite_iff (fun _ => isComparisonName_iff) hfiles).1 hfile, t, ht, hcovers,
    hplace⟩

/-- Every place that a report names covers the test it is named for. -/
def Settings.NamesPlaces (settings : Settings) (disk : DiskAccess Id) (reports : List FileReport) :
    Prop :=
  ∀ report ∈ reports, ∀ line ∈ report.tests, ∀ place, line.outcome = .covered place →
    settings.CoversAt disk line.test place

theorem namesPlaces_evaluate {ignored : IgnoreSet} {reference : List ReferenceFile}
    {comparison : List ComparisonFile}
    (hload : (settings.loadComparison disk).run = .ok comparison) :
    settings.NamesPlaces disk (evaluate ignored reference comparison) := by
  intro report hreport line hline place hplace
  obtain ⟨file, -, rfl⟩ := List.mem_map.1 hreport
  obtain ⟨test, -, rfl⟩ := List.mem_map.1 hline
  exact coversAt_of_firstCover hload (outcomeOf_eq_covered_iff.1 hplace).2

/-- **Two audits conclude the same**, places and the order of the sections apart: their totals are
equal, their sections have the same outlines, and whatever is asked of them, strict or not, they
end with the same code. -/
structure ConcludesAlike (loaded loaded' : Loaded) : Prop where
  summary_eq : loaded.summary = loaded'.summary
  outlines : (loaded.reports.map FileReport.outline).Perm (loaded'.reports.map FileReport.outline)
  exitCode_eq : ∀ (settings : Settings) notes notes',
    (loaded.write settings .unbounded notes).exitCode =
      (loaded'.write settings .unbounded notes').exitCode

/-- The same files in another order lead to the same conclusions. -/
theorem concludesAlike_of_perm {ignored : IgnoreSet} {reference reference' : List ReferenceFile}
    {comparison comparison' : List ComparisonFile} (href : reference.Perm reference')
    (hcomp : comparison.Perm comparison') :
    ConcludesAlike ⟨ignored, reference, comparison⟩ ⟨ignored, reference', comparison'⟩ := by
  have houtlines : ((evaluate ignored reference comparison).map FileReport.outline).Perm
      ((evaluate ignored reference' comparison').map FileReport.outline) :=
    map_outline_evaluate_perm href fun _ => names_iff_of_perm hcomp
  have hsummary := Summary.ofReports_eq_of_perm houtlines
  refine ⟨hsummary, houtlines, fun settings notes notes' => ?_⟩
  rw [Loaded.exitCode_write, Loaded.exitCode_write, Loaded.isRefused, Loaded.isRefused,
    Loaded.summary, Loaded.summary, Loaded.reports, Loaded.reports, hsummary]

/-- **The order of listing decides nothing.** With the directories listed in another order, the two
suites can be read if they can be read at all; for every list of names to ignore the same is
concluded; in either order a covered test is reported with a place that does cover it; and a run
ends with the same code. -/
theorem listingOrder_immaterial (disk disk' : DiskAccess Id) (h : Relists disk disk')
    (settings : Settings) :
    ((∃ reference, (settings.loadReference disk).run = .ok reference) ∧
        (∃ comparison, (settings.loadComparison disk).run = .ok comparison) ↔
      (∃ reference, (settings.loadReference disk').run = .ok reference) ∧
        ∃ comparison, (settings.loadComparison disk').run = .ok comparison) ∧
    (∀ ignored reference comparison reference' comparison',
      (settings.loadReference disk).run = .ok reference →
      (settings.loadComparison disk).run = .ok comparison →
      (settings.loadReference disk').run = .ok reference' →
      (settings.loadComparison disk').run = .ok comparison' →
      ConcludesAlike ⟨ignored, reference, comparison⟩ ⟨ignored, reference', comparison'⟩ ∧
        settings.NamesPlaces disk (evaluate ignored reference comparison) ∧
        settings.NamesPlaces disk' (evaluate ignored reference' comparison')) ∧
    (audit disk settings .unbounded).run.exitCode =
      (audit disk' settings .unbounded).run.exitCode := by
  have href : SameFiles (settings.loadReference disk).run (settings.loadReference disk').run :=
    h.sameFiles_loadReference
  have hcomp : SameFiles (settings.loadComparison disk).run (settings.loadComparison disk').run :=
    h.sameFiles_loadComparison
  refine ⟨and_congr href.exists_ok_iff hcomp.exists_ok_iff,
    fun ignored reference comparison reference' comparison' hr hc hr' hc' =>
      ⟨concludesAlike_of_perm (href.perm hr hr') (hcomp.perm hc hc'), namesPlaces_evaluate hc,
        namesPlaces_evaluate hc'⟩, ?_⟩
  have hloads : settings.Loads disk ↔ settings.Loads disk' := by
    rw [Settings.Loads, Settings.Loads, h.loadIgnored_run_eq, href.exists_ok_iff,
      hcomp.exists_ok_iff]
  by_cases hload : settings.Loads disk
  · obtain ⟨⟨ignored, reference, comparison⟩, hrun⟩ := exists_load_eq_ok_iff.2 hload
    obtain ⟨⟨ignored', reference', comparison'⟩, hrun'⟩ :=
      exists_load_eq_ok_iff.2 (hloads.1 hload)
    obtain ⟨hi, hr, hc⟩ := load_eq_ok_iff.1 hrun
    obtain ⟨hi', hr', hc'⟩ := load_eq_ok_iff.1 hrun'
    -- the names to ignore are the same ones
    have hignored : ignored = ignored' :=
      Except.ok.inj (hi.symm.trans (h.loadIgnored_run_eq.trans hi'))
    subst hignored
    rw [audit_run_of_loaded hrun, audit_run_of_loaded hrun']
    exact (concludesAlike_of_perm (href.perm hr hr') (hcomp.perm hc hc')).exitCode_eq _ _ _
  · rw [(audit_run_of_not_loads hload .unbounded).2,
      (audit_run_of_not_loads (fun h => hload (hloads.2 h)) .unbounded).2]

/-! ### Two files that cover one test -/

/-- A file that covers `test_x`. -/
def coveringFile (name label : String) : SuiteFile :=
  ⟨name, "test('" ++ label ++ "', () => \x7b\n // test_x"⟩

/-- A disk whose comparison suite covers the one test of the reference suite twice. -/
def twiceCoveredDisk : Disk where
  root := .directory [
    (Path.ofText "py", .directory [(Path.ofText "test_a", .file "def test_x(".toUTF8)]),
    (Path.ofText "js", .directory [
      (Path.ofText "b.test.ts", .file (coveringFile "b.test.ts" "b").source.toUTF8),
      (Path.ofText "a.test.ts", .file (coveringFile "a.test.ts" "a").source.toUTF8)])]
  current := []

/-- A strict run over this disk. -/
def twiceCoveredSettings (sorted : Bool) : Settings :=
  { fileSettings with
    referencePath := Path.ofText "py", comparisonPath := Path.ofText "js", sorted }

/-- What its two suites read as. The files are evaluated on the disk. -/
theorem readSuite_reference_twiceCovered :
    (readSuite twiceCoveredDisk.access .asListed (isReferenceName "test_") (Path.ofText "py")).run =
      .ok [⟨"test_a", "def test_x("⟩] := by
  decide +kernel

theorem readSuite_comparison_twiceCovered :
    (readSuite twiceCoveredDisk.access .asListed (isComparisonName ".test.") (Path.ofText "js")).run
      = .ok [coveringFile "b.test.ts" "b", coveringFile "a.test.ts" "a"] := by
  decide +kernel

/-- The two listings lead to different places and to the same conclusions. -/
theorem listingOrder_twiceCovered :
    ∃ reference comparison reference' comparison',
      ((twiceCoveredSettings false).loadReference twiceCoveredDisk.access).run = .ok reference ∧
      ((twiceCoveredSettings false).loadComparison twiceCoveredDisk.access).run = .ok comparison ∧
      ((twiceCoveredSettings false).loadReference twiceCoveredDisk.access.reversed).run =
        .ok reference' ∧
      ((twiceCoveredSettings false).loadComparison twiceCoveredDisk.access.reversed).run =
        .ok comparison' ∧
      firstCover? comparison "test_x" ≠ firstCover? comparison' "test_x" ∧
      ConcludesAlike ⟨.builtin, reference, comparison⟩ ⟨.builtin, reference', comparison'⟩ := by
  have hr := readSuite_reference_twiceCovered
  have hc := readSuite_comparison_twiceCovered
  have hr' : (readSuite twiceCoveredDisk.access.reversed .asListed (isReferenceName "test_")
      (Path.ofText "py")).run = .ok [⟨"test_a", "def test_x("⟩] := by decide +kernel
  have hc' : (readSuite twiceCoveredDisk.access.reversed .asListed (isComparisonName ".test.")
      (Path.ofText "js")).run = .ok [coveringFile "a.test.ts" "a", coveringFile "b.test.ts" "b"] :=
    by decide +kernel
  have hconcludes := (listingOrder_immaterial _ _ (relists_reversed twiceCoveredDisk.access)
    (twiceCoveredSettings false)).2.1 .builtin _ _ _ _ (scanReference_eq_ok_iff.2 ⟨_, hr, rfl⟩)
    (scanComparison_eq_ok_iff.2 ⟨_, hc, rfl⟩) (scanReference_eq_ok_iff.2 ⟨_, hr', rfl⟩)
    (scanComparison_eq_ok_iff.2 ⟨_, hc', rfl⟩)
  -- the covers are told from the texts of the files
  exact ⟨_, _, _, _,
    scanReference_eq_ok_iff.2 ⟨_, hr, rfl⟩, scanComparison_eq_ok_iff.2 ⟨_, hc, rfl⟩,
    scanReference_eq_ok_iff.2 ⟨_, hr', rfl⟩, scanComparison_eq_ok_iff.2 ⟨_, hc', rfl⟩,
    by decide +kernel, hconcludes.1⟩

/-- **Visited by name, suites have one reading**, whatever the order of listing. A scan comes to the
same result in either order: one file for each entry that counts, in strictly increasing order of
the names, or the fault of the least name that is one. And a run leaves the same behind, output,
fault and code. -/
theorem byName_canonical (disk disk' : DiskAccess Id) (h : Relists disk disk') :
    (∀ dir, NamesDistinct disk dir →
      (∀ lead, (scanReference disk .byName lead dir).run =
        (scanReference disk' .byName lead dir).run) ∧
      (∀ marker, (scanComparison disk .byName marker dir).run =
        (scanComparison disk' .byName marker dir).run) ∧
      ∀ entries, IsListing disk dir entries →
        (∀ lead, ReadsByName disk (isReferenceName lead) dir entries SuiteFile.toReference
          (scanReference disk .byName lead dir).run) ∧
        ∀ marker, ReadsByName disk (isComparisonName marker) dir entries SuiteFile.toComparison
          (scanComparison disk .byName marker dir).run) ∧
    ∀ settings : Settings, settings.sorted = true →
      NamesDistinct disk settings.referencePath →
      NamesDistinct disk settings.comparisonPath →
      ∀ sink, (audit disk settings sink).run = (audit disk' settings sink).run := by
  refine ⟨fun dir hdistinct => ⟨h.scanReference_byName hdistinct, h.scanComparison_byName hdistinct,
    fun entries hlisting => ⟨fun lead => ?_, fun marker => ?_⟩⟩,
    fun settings hsorted href hcomp sink => ?_⟩
  · rw [scanReference_run]
    exact hlisting.readsByName hdistinct _
  · rw [scanComparison_run]
    exact hlisting.readsByName hdistinct _
  · rw [audit, audit, h.load_byName hsorted href hcomp]

/-- By name, both listings are read alike, and the run is the same one. -/
theorem byName_twiceCovered :
    NamesDistinct twiceCoveredDisk.access (Path.ofText "js") ∧
      (scanComparison twiceCoveredDisk.access .byName ".test." (Path.ofText "js")).run =
        (scanComparison twiceCoveredDisk.access.reversed .byName ".test." (Path.ofText "js")).run ∧
      (audit twiceCoveredDisk.access (twiceCoveredSettings true) .unbounded).run =
        (audit twiceCoveredDisk.access.reversed (twiceCoveredSettings true) .unbounded).run := by
  have hreference : NamesDistinct twiceCoveredDisk.access (Path.ofText "py") := by
    intro entries hentries
    have hlist : (twiceCoveredDisk.access.entries (Path.ofText "py")).run =
        .ok [⟨Path.ofText "test_a", .file⟩] := by decide +kernel
    obtain rfl := Except.ok.inj (hlist.symm.trans hentries)
    simp
  have hcomparison : NamesDistinct twiceCoveredDisk.access (Path.ofText "js") := by
    intro entries hentries
    have hlist : (twiceCoveredDisk.access.entries (Path.ofText "js")).run =
        .ok [⟨Path.ofText "b.test.ts", .file⟩, ⟨Path.ofText "a.test.ts", .file⟩] := by
      decide +kernel
    obtain rfl := Except.ok.inj (hlist.symm.trans hentries)
    decide +kernel
  have hcanonical := byName_canonical _ _ (relists_reversed twiceCoveredDisk.access)
  exact ⟨hcomparison, (hcanonical.1 _ hcomparison).2.1 ".test.",
    hcanonical.2 (twiceCoveredSettings true) rfl hreference hcomparison .unbounded⟩

end SuiteAudit
