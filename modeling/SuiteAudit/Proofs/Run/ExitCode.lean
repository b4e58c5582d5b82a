import SuiteAudit.Proofs.Report.Outcome
import SuiteAudit.Proofs.Suite.Reading
import SuiteAudit.Run
/-!
# Run — the exit code

A run ends well when everything that it works on can be loaded and, if it is a strict
one, every test that the reference suite declares is accounted for. This file says so
in terms of the disk: which files the suites have, what they declare and cover, and
which names are ignored.
-/

namespace SuiteAudit

variable {disk : DiskAccess Id} {settings : Settings} {test : String}

/-! ## What a run is about -/

/-- A name is on an ignore file. A blank file lists nothing. -/
def IgnoreFileLists (disk : DiskAccess Id) (path : Path) (name : String) : Prop :=
  ∃ source names, (disk.readText path).run = .ok source ∧
    (∃ c ∈ source.toList, Text.isBlank c = false) ∧
    Yaml.readTextList source.toList = .ok names ∧ name.toList ∈ names

/-- **A test is ignored**: it is on the ignore file, or on the builtin list where none is set. -/
def Settings.Ignores (settings : Settings) (disk : DiskAccess Id) (test : String) : Prop :=
  match settings.ignorePath with
  | some path => IgnoreFileLists disk path test
  | none => test ∈ IgnoreSet.builtinNames

/-- **A test is declared** in some file of the reference suite. -/
def Settings.Declares (settings : Settings) (disk : DiskAccess Id) (test : String) : Prop :=
  ∃ file, InSuite disk (settings.referencePrefix.toList <+: ·.toList)
    settings.referencePath file ∧ test ∈ declaredTests file.source

/-- **A test is covered** by some test of some file of the comparison suite. -/
def Settings.Covers (settings : Settings) (disk : DiskAccess Id) (test : String) : Prop :=
  ∃ file, InSuite disk (settings.comparisonInfix.toList <:+: ·.toList)
    settings.comparisonPath file ∧ ∃ t ∈ coveringTests file.source, t.covers = test

/-- **Everything loads**: the names to ignore and both suites. -/
def Settings.Loads (settings : Settings) (disk : DiskAccess Id) : Prop :=
  (∃ ignored, (settings.loadIgnored disk).run = .ok ignored) ∧
    (∃ reference, (settings.loadReference disk).run = .ok reference) ∧
    ∃ comparison, (settings.loadComparison disk).run = .ok comparison

/-! ## What is loaded -/

theorem IgnoreSet.ofFile_run {path : Path} :
    (IgnoreSet.ofFile disk path).run =
      match (disk.readText path).run with
      | .error fault => .error (.readIgnoreList path fault)
      | .ok source =>
        match ofText source with
        | .error fault => .error (.parseIgnoreList path fault)
        | .ok set => .ok set := by
  rw [IgnoreSet.ofFile, Id.run_bind]
  cases (disk.readText path).run with
  | error fault => rfl
  | ok source => cases ofText source <;> rfl

/-- What is loaded from an ignore file is what it lists. -/
theorem IgnoreSet.mem_names_of_ofFile {path : Path} {ignored : IgnoreSet} {name : String}
    (h : (IgnoreSet.ofFile disk path).run = .ok ignored) :
    name ∈ ignored.names ↔ IgnoreFileLists disk path name := by
  rw [ofFile_run] at h
  cases htext : (disk.readText path).run with
  | error fault => simp [htext] at h
  | ok source =>
    simp only [htext, ofText] at h
    have hlists : IgnoreFileLists disk path name ↔ source.toList.all Text.isBlank = false ∧
        ∃ names, Yaml.readTextList source.toList = .ok names ∧ name.toList ∈ names := by
      simp [IgnoreFileLists, htext]
    rw [hlists]
    cases hblank : source.toList.all Text.isBlank with
    | true =>
      simp only [hblank, if_true, Except.ok.injEq] at h
      subst h
      simp [empty]
    | false =>
      cases hnames : Yaml.readTextList source.toList with
      | error fault => simp [hblank, hnames, Except.map] at h
      | ok names =>
        simp only [hblank, hnames, Except.map, Bool.false_eq_true, if_false, Except.ok.injEq] at h
        subst h
        have hmem : name ∈ names.map String.ofList ↔ name.toList ∈ names := by
          rw [List.mem_map]
          constructor
          · rintro ⟨chars, hchars, rfl⟩
            rwa [String.toList_ofList]
          · exact fun hname => ⟨name.toList, hname, String.ofList_toList⟩
        simp [hmem]

/-- The names that are loaded are those to ignore. -/
theorem mem_names_of_loadIgnored {ignored : IgnoreSet}
    (h : (settings.loadIgnored disk).run = .ok ignored) :
    test ∈ ignored.names ↔ settings.Ignores disk test := by
  rw [Settings.loadIgnored] at h
  rw [Settings.Ignores]
  cases hpath : settings.ignorePath with
  | some path =>
    rw [hpath] at h
    exact IgnoreSet.mem_names_of_ofFile h
  | none =>
    rw [hpath] at h
    obtain rfl := Except.ok.inj h
    simp [IgnoreSet.builtin]

/-- What scanned reference files declare is what the reference suite declares. -/
theorem declares_of_loadReference {reference : List ReferenceFile}
    (h : (settings.loadReference disk).run = .ok reference) :
    (∃ file ∈ reference, test ∈ file.tests) ↔ settings.Declares disk test := by
  obtain ⟨files, hfiles, rfl⟩ := scanReference_eq_ok_iff.1 h
  simp [Settings.Declares, ← mem_readSuite_iff (fun _ => isReferenceName_iff) hfiles,
    SuiteFile.toReference]

/-- And what scanned comparison files cover is what the comparison suite covers. -/
theorem noCover_of_loadComparison {comparison : List ComparisonFile}
    (h : (settings.loadComparison disk).run = .ok comparison) :
    NoCover comparison test ↔ ¬ settings.Covers disk test := by
  obtain ⟨files, hfiles, rfl⟩ := scanComparison_eq_ok_iff.1 h
  simp [Settings.Covers, ← mem_readSuite_iff (fun _ => isComparisonName_iff) hfiles, NoCover,
    SuiteFile.toComparison]

/-! ## How a run ends -/

/-- Loading is the three loads, one after the other up to the first that fails. -/
theorem load_result_run :
    (settings.load disk).run.result = do
      let ignored ← (settings.loadIgnored disk).run
      let reference ← (settings.loadReference disk).run
      let comparison ← (settings.loadComparison disk).run
      return ⟨ignored, reference, comparison⟩ := by
  rw [Settings.load, Id.run_bind]
  cases (settings.loadIgnored disk).run with
  | error fault => rfl
  | ok ignored =>
    dsimp only
    rw [Id.run_bind]
    cases (settings.loadReference disk).run with
    | error fault => rfl
    | ok reference =>
      dsimp only
      rw [Id.run_bind]
      cases (settings.loadComparison disk).run <;> rfl

/-- What is loaded is what each of the three loads yields. -/
theorem load_eq_ok_iff {loaded : Loaded} :
    (settings.load disk).run.result = .ok loaded ↔
      (settings.loadIgnored disk).run = .ok loaded.ignored ∧
        (settings.loadReference disk).run = .ok loaded.reference ∧
        (settings.loadComparison disk).run = .ok loaded.comparison := by
  obtain ⟨ignored, reference, comparison⟩ := loaded
  rw [load_result_run]
  cases (settings.loadIgnored disk).run with
  | error fault => simp [bind, Except.bind]
  | ok ignored' =>
    cases (settings.loadReference disk).run with
    | error fault => simp [bind, Except.bind]
    | ok reference' =>
      cases (settings.loadComparison disk).run <;> simp [bind, Except.bind, pure, Except.pure]

theorem exists_load_eq_ok_iff :
    (∃ loaded, (settings.load disk).run.result = .ok loaded) ↔ settings.Loads disk := by
  simp only [load_eq_ok_iff]
  constructor
  · rintro ⟨loaded, hignored, hreference, hcomparison⟩
    exact ⟨⟨_, hignored⟩, ⟨_, hreference⟩, ⟨_, hcomparison⟩⟩
  · rintro ⟨⟨ignored, hignored⟩, ⟨reference, hreference⟩, ⟨comparison, hcomparison⟩⟩
    exact ⟨⟨ignored, reference, comparison⟩, hignored, hreference, hcomparison⟩

/-- A run whose loads fail writes nothing and ends badly. -/
theorem audit_run_of_fault {fault : AuditFault} {sink : Sink}
    (h : (settings.load disk).run.result = .error fault) :
    (audit disk settings sink).run = ⟨(settings.load disk).run.notes, [], some fault, 1⟩ := by
  rw [audit, Id.run_bind]
  cases hrun : (settings.load disk).run with
  | mk notes result =>
    obtain rfl : result = .error fault := by simpa [hrun] using h
    rfl

/-- A run whose loads succeed writes its report. -/
theorem audit_run_of_loaded {loaded : Loaded} {sink : Sink}
    (h : (settings.load disk).run.result = .ok loaded) :
    (audit disk settings sink).run =
      loaded.write settings sink (settings.load disk).run.notes := by
  rw [audit, Id.run_bind]
  cases hrun : (settings.load disk).run with
  | mk notes result =>
    obtain rfl : result = .ok loaded := by simpa [hrun] using h
    rfl

/-- Into a sink that takes everything, a report ends badly only if it is refused, -/
theorem Loaded.exitCode_write (loaded : Loaded) (settings : Settings) (notes : List String) :
    (loaded.write settings .unbounded notes).exitCode =
      if loaded.isRefused settings then 1 else 0 := by
  rw [write, Sink.accept_unbounded]

/-- and so does a run that writes it. -/
theorem exitCode_of_loaded {loaded : Loaded} (h : (settings.load disk).run.result = .ok loaded) :
    (audit disk settings .unbounded).run.exitCode = if loaded.isRefused settings then 1 else 0 := by
  rw [audit_run_of_loaded h, loaded.exitCode_write]

/-- It ends well if nothing is uncovered, and in any case if it is not strict. -/
theorem exitCode_eq_zero_iff {loaded : Loaded}
    (h : (settings.load disk).run.result = .ok loaded) :
    (audit disk settings .unbounded).run.exitCode = 0 ↔
      (settings.strict = true → loaded.summary.uncovered = 0) := by
  rw [exitCode_of_loaded h, Loaded.isRefused]
  cases settings.strict with
  | false => simp
  | true =>
    rw [Bool.true_and]
    rcases Nat.eq_zero_or_pos loaded.summary.uncovered with hnone | hsome
    · simp [hnone]
    · simp [hsome, Nat.ne_of_gt hsome]

/-- **A strict run is refused exactly where a declared test is not accounted for.** -/
theorem isRefused_iff {loaded : Loaded} (h : (settings.load disk).run.result = .ok loaded) :
    loaded.isRefused settings = true ↔ settings.strict = true ∧
      ∃ test, settings.Declares disk test ∧ ¬ settings.Ignores disk test ∧
        ¬ settings.Covers disk test := by
  obtain ⟨hignored, hreference, hcomparison⟩ := load_eq_ok_iff.1 h
  rw [Loaded.isRefused, Bool.and_eq_true, decide_eq_true_iff, Loaded.summary, Loaded.reports,
    uncovered_pos_iff]
  refine and_congr_right fun _ => ?_
  simp only [noCover_of_loadComparison hcomparison, ← mem_names_of_loadIgnored hignored,
    ← declares_of_loadReference hreference]
  constructor
  · rintro ⟨file, hfile, test, htest, hout⟩
    exact ⟨test, ⟨file, hfile, htest⟩, hout⟩
  · rintro ⟨test, ⟨file, hfile, htest⟩, hout⟩
    exact ⟨file, hfile, test, htest, hout⟩

/-- **The strict gate is exact.** Where the output takes everything, a strict run ends well exactly
if everything loads and every declared test is ignored or covered, a run that is not strict exactly
if everything loads, and a run that does not end well ends with code 1. -/
theorem exitCode_audit (disk : DiskAccess Id) (settings : Settings) :
    (settings.strict = true →
      ((audit disk settings .unbounded).run.exitCode = 0 ↔ settings.Loads disk ∧
        ∀ test, settings.Declares disk test →
          settings.Ignores disk test ∨ settings.Covers disk test)) ∧
    (settings.strict = false →
      ((audit disk settings .unbounded).run.exitCode = 0 ↔ settings.Loads disk)) ∧
    ((audit disk settings .unbounded).run.exitCode ≠ 0 →
      (audit disk settings .unbounded).run.exitCode = 1) := by
  rw [← exists_load_eq_ok_iff]
  cases hload : (settings.load disk).run.result with
  | error fault =>
    rw [audit_run_of_fault hload]
    simp
  | ok loaded =>
    -- everything is loaded, and only the refusal is left to look at
    have hrefused := isRefused_iff hload
    have hcode : (audit disk settings .unbounded).run.exitCode = 0 ↔
        ¬ loaded.isRefused settings = true := by
      rw [exitCode_of_loaded hload]
      split <;> simp_all
    have hone : (audit disk settings .unbounded).run.exitCode ≠ 0 →
        (audit disk settings .unbounded).run.exitCode = 1 := by
      rw [exitCode_of_loaded hload]
      split <;> simp
    refine ⟨fun hstrict => ?_, fun hstrict => ?_, hone⟩
    · rw [hcode, hrefused, and_iff_right hstrict, and_iff_right ⟨loaded, rfl⟩]
      push Not
      exact forall₂_congr fun test _ => or_iff_not_imp_left.symm
    · rw [hcode, hrefused]
      simp [hstrict]

end SuiteAudit
