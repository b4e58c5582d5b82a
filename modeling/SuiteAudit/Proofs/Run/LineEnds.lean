import SuiteAudit.Proofs.Run.Growth
import SuiteAudit.Proofs.Suite.LineEnds
import SuiteAudit.Suite.Scan
/-!
# Run — suites with other line ends

A file whose line ends are converted declares and covers the same tests, and a label that
crosses lines gets their carriage returns. So nothing that is concluded about two suites
hangs on the line ends of their files: converting any of them changes the labels that a
report shows, and nothing else in it (`lineEnds_immaterial`).
-/

namespace SuiteAudit

open Text

/-- **A text with its line ends converted**: a carriage return in front of every line feed. -/
def lineEndsConverted (text : String) : String :=
  String.ofList (withReturns text.toList)

/-- A label stays as it is or has its line ends converted. -/
def KeepsLabel (label label' : String) : Prop :=
  label' = label ∨ label' = lineEndsConverted label

/-- **A file is converted or kept.** A file is converted only if it has no carriage return. -/
inductive SuiteFile.Converts : SuiteFile → SuiteFile → Prop
  | kept (file : SuiteFile) : Converts file file
  | converted {file : SuiteFile} : '\r' ∉ file.source.toList →
      Converts file ⟨file.name, lineEndsConverted file.source⟩

/-- A covering test covers the same under a label that is kept. -/
structure CoveringTest.Relabels (test test' : CoveringTest) : Prop where
  covers_eq : test.covers = test'.covers
  label : KeepsLabel test.label test'.label

/-- A comparison file covers the same under labels that are kept. -/
structure ComparisonFile.Relabels (file file' : ComparisonFile) : Prop where
  name_eq : file.name = file'.name
  tests : List.Forall₂ CoveringTest.Relabels file.tests file'.tests

/-- A place is in the same file under a label that is kept. -/
structure Coverage.Relabels (place place' : Coverage) : Prop where
  file_eq : place.file = place'.file
  label : KeepsLabel place.label place'.label

/-- **An outcome stays what it is**, and the place of a covered test is relabelled at most. -/
inductive Outcome.Relabels : Outcome → Outcome → Prop
  | ignored : Relabels .ignored .ignored
  | uncovered : Relabels .uncovered .uncovered
  | covered {place place' : Coverage} : place.Relabels place' →
      Relabels (.covered place) (.covered place')

/-- **Two reports are the same but for labels**: their sections have the same outlines, their lines
are about the same tests and have outcomes that are relabelled at most, and their totals are
equal. -/
structure SameButLabels (reports reports' : List FileReport) : Prop where
  outlines : reports.map FileReport.outline = reports'.map FileReport.outline
  lines : LineByLine (fun line line' => line.test = line'.test ∧
    line.outcome.Relabels line'.outcome) reports reports'
  summary_eq : Summary.ofReports reports = Summary.ofReports reports'

variable {source test : String} {file file' : SuiteFile} {files files' : List ComparisonFile}
variable {ignored : IgnoreSet}

/-! ## Sources -/

/-- A converted source declares the same tests, -/
theorem declaredTests_lineEndsConverted (source : String) :
    declaredTests (lineEndsConverted source) = declaredTests source := by
  rw [declaredTests, declaredTests, lineEndsConverted, String.toList_ofList,
    declarations_withReturns]

/-- and covers the same tests under converted labels. -/
theorem coveringTests_lineEndsConverted (h : '\r' ∉ source.toList) :
    coveringTests (lineEndsConverted source) =
      (coveringTests source).map fun t => ⟨lineEndsConverted t.label, t.covers⟩ := by
  rw [coveringTests, coveringTests, lineEndsConverted, String.toList_ofList,
    coveringBlocks_withReturns _ h, List.map_map, List.map_map]
  refine List.map_congr_left fun block _ => ?_
  simp [lineEndsConverted]

/-! ## Files -/

theorem SuiteFile.Converts.toReference_eq (h : file.Converts file') :
    file.toReference = file'.toReference := by
  cases h with
  | kept => rfl
  | converted _ => rw [toReference, toReference, declaredTests_lineEndsConverted]

theorem CoveringTest.Relabels.refl (t : CoveringTest) : t.Relabels t :=
  ⟨rfl, .inl rfl⟩

theorem SuiteFile.Converts.relabels_toComparison (h : file.Converts file') :
    file.toComparison.Relabels file'.toComparison := by
  cases h with
  | kept => exact ⟨rfl, List.forall₂_same.2 fun t _ => .refl t⟩
  | converted hsource =>
    refine ⟨rfl, ?_⟩
    rw [toComparison, toComparison, coveringTests_lineEndsConverted hsource,
      List.forall₂_map_right_iff, List.forall₂_same]
    exact fun t _ => ⟨rfl, .inr rfl⟩

/-! ## Reports -/

/-- **The first place that covers a test is the same one**, relabelled at most. -/
theorem firstCover?_relabels (h : List.Forall₂ ComparisonFile.Relabels files files')
    (test : String) :
    Option.Rel Coverage.Relabels (firstCover? files test) (firstCover? files' test) := by
  have hpairs : List.Forall₂ (fun pair pair' => pair.1 = pair'.1 ∧ pair.2.Relabels pair'.2)
      (coveragePairs files) (coveragePairs files') :=
    List.rel_flatMap h fun file file' hfile =>
      List.rel_map (fun t t' ht => ⟨ht.covers_eq, hfile.name_eq, ht.label⟩) hfile.tests
  -- the pairs that name the test answer each other
  have hnaming : List.Forall₂ (fun pair pair' => pair.1 = pair'.1 ∧ pair.2.Relabels pair'.2)
      ((coveragePairs files).filter fun pair => pair.1 == test)
      ((coveragePairs files').filter fun pair => pair.1 == test) :=
    List.rel_filter (fun pair pair' hpair => by simp only [hpair.1]) hpairs
  rw [firstCover?_eq_find?, firstCover?_eq_find?, ← List.head?_filter, ← List.head?_filter]
  generalize ((coveragePairs files).filter fun pair => pair.1 == test) = pairs at hnaming
  generalize ((coveragePairs files').filter fun pair => pair.1 == test) = pairs' at hnaming
  cases hnaming with
  | nil => exact .none
  | cons hpair _ => exact .some hpair.2

/-- So its outcome stays what it is. -/
theorem outcomeOf_relabels (h : List.Forall₂ ComparisonFile.Relabels files files')
    (ignored : IgnoreSet) (test : String) :
    (outcomeOf ignored (CoverageIndex.ofFiles files) test).Relabels
      (outcomeOf ignored (CoverageIndex.ofFiles files') test) := by
  have hfirst := firstCover?_relabels h test
  rw [outcomeOf, outcomeOf, CoverageIndex.lookup?_ofFiles, CoverageIndex.lookup?_ofFiles]
  generalize firstCover? files test = place at hfirst
  generalize firstCover? files' test = place' at hfirst
  split
  · exact .ignored
  · cases hfirst with
    | none => exact .uncovered
    | some hplace => exact .covered hplace

theorem Outcome.Relabels.status_eq {outcome outcome' : Outcome} (h : outcome.Relabels outcome') :
    outcome.status = outcome'.status := by
  cases h <;> rfl

/-- **Where the comparison files are relabelled at most, so is the report.** -/
theorem sameButLabels_evaluate (h : List.Forall₂ ComparisonFile.Relabels files files')
    (ignored : IgnoreSet) (reference : List ReferenceFile) :
    SameButLabels (evaluate ignored reference files) (evaluate ignored reference files') := by
  have houtlines : (evaluate ignored reference files).map FileReport.outline =
      (evaluate ignored reference files').map FileReport.outline :=
    map_outline_evaluate_congr fun test => (outcomeOf_relabels h ignored test).status_eq
  exact ⟨houtlines, lineByLine_evaluate fun test => ⟨rfl, outcomeOf_relabels h ignored test⟩,
    Summary.ofReports_eq_of_perm (.of_eq houtlines)⟩

/-- **Line ends decide nothing.** A source whose line ends are converted declares the same tests and
covers the same tests in the same order, under labels whose line ends are converted; and converting
any of the files of the two suites changes no test that is declared, and nothing in a report but
labels. -/
theorem lineEnds_immaterial :
    (∀ source : String, '\r' ∉ source.toList →
      declaredTests (lineEndsConverted source) = declaredTests source ∧
      coveringTests (lineEndsConverted source) =
        (coveringTests source).map fun t => ⟨lineEndsConverted t.label, t.covers⟩) ∧
    ∀ reference reference' comparison comparison' : List SuiteFile,
      List.Forall₂ SuiteFile.Converts reference reference' →
      List.Forall₂ SuiteFile.Converts comparison comparison' →
      reference.map SuiteFile.toReference = reference'.map SuiteFile.toReference ∧
      ∀ ignored, SameButLabels
        (evaluate ignored (reference.map SuiteFile.toReference)
          (comparison.map SuiteFile.toComparison))
        (evaluate ignored (reference'.map SuiteFile.toReference)
          (comparison'.map SuiteFile.toComparison)) := by
  refine ⟨fun source hsource =>
      ⟨declaredTests_lineEndsConverted source, coveringTests_lineEndsConverted hsource⟩,
    fun reference reference' comparison comparison' href hcomp => ?_⟩
  have hreference : reference.map SuiteFile.toReference =
      reference'.map SuiteFile.toReference := by
    rw [← List.forall₂_eq_eq_eq, List.forall₂_map_left_iff, List.forall₂_map_right_iff]
    exact href.imp fun _ _ hfile => hfile.toReference_eq
  have hcomparison : List.Forall₂ ComparisonFile.Relabels
      (comparison.map SuiteFile.toComparison) (comparison'.map SuiteFile.toComparison) := by
    rw [List.forall₂_map_left_iff, List.forall₂_map_right_iff]
    exact hcomp.imp fun _ _ hfile => hfile.relabels_toComparison
  refine ⟨hreference, fun ignored => ?_⟩
  rw [← hreference]
  exact sameButLabels_evaluate hcomparison ignored _

/-! ### A label on two lines -/

/-- A file with a label on two lines. -/
def crossingLabel : SuiteFile :=
  ⟨"a.test.ts", "test('one\ntwo', () => \x7b\n  // test_x\n"⟩

/-- Its line ends are converted, those of the reference file are kept. -/
theorem lineEnds_crossingLabel :
    '\r' ∉ crossingLabel.source.toList ∧
      coveringTests (lineEndsConverted crossingLabel.source) = [⟨"one\r\ntwo", "test_x"⟩] ∧
      SameButLabels
        (evaluate .builtin [SuiteFile.toReference ⟨"test_a.py", "def test_x():\n"⟩]
          [crossingLabel.toComparison])
        (evaluate .builtin [SuiteFile.toReference ⟨"test_a.py", "def test_x():\n"⟩]
          [SuiteFile.toComparison ⟨"a.test.ts", lineEndsConverted crossingLabel.source⟩]) := by
  have hsource : '\r' ∉ crossingLabel.source.toList := by decide
  have htests : coveringTests crossingLabel.source = [⟨"one\ntwo", "test_x"⟩] := by
    decide +kernel
  refine ⟨hsource, ?_, ?_⟩
  · rw [(lineEnds_immaterial.1 _ hsource).2, htests]
    rfl
  · exact (lineEnds_immaterial.2 _ _ _ _ (.cons (.kept _) .nil)
      (.cons (.converted hsource) .nil)).2 .builtin

end SuiteAudit
