import SuiteAudit.Proofs.Report.Colors
import SuiteAudit.Proofs.Run.ListingOrder
import SuiteAudit.Proofs.Suite.BlockScan
import SuiteAudit.Proofs.Suite.Declaration
/-!
# Run — one audit, presented in several ways

Colors, totals and notes of progress are asked for beside an audit and decide nothing
in it: nothing that is loaded depends on them, and so neither do the fault of a run,
its totals and its code. `presentation_immaterial` says this together with what they do
to the output. For the colors it needs more than the layout: a name on a disk may hold
an escape character, but no test name and no label does, since the readers of both take
characters of certain classes only (`clean_of_mem_reports`).
-/

namespace SuiteAudit

open Text

variable {disk : DiskAccess Id} {settings : Settings} {reports : List FileReport} {loaded : Loaded}

/-- How an audit is presented. -/
structure Presentation where
  color : ColorMode
  /-- Whether totals are printed below the report. -/
  summary : Bool
  /-- Whether progress is noted. -/
  verbose : Bool
deriving Repr, DecidableEq

/-- **The same audit, presented in some way.** -/
def Settings.presented (settings : Settings) (how : Presentation) : Settings :=
  { settings with color := how.color, summary := how.summary, verbose := how.verbose }

/-! ## What no escape can be in -/

theorem noEscape_of_isTestName {test : String} (h : IsTestName test.toList) : NoEscape test :=
  not_mem_run (isWord_of_mem_testName h) (by decide)

theorem noEscape_of_isLabel {label : String} (h : IsRun isLabelChar label.toList) :
    NoEscape label :=
  not_mem_run h.2 (by decide)

/-- No file of the suites has an escape character in its name. -/
structure Settings.NamesClean (settings : Settings) (disk : DiskAccess Id) : Prop where
  reference : ∀ file, InSuite disk (settings.referencePrefix.toList <+: ·.toList)
    settings.referencePath file → NoEscape file.name
  comparison : ∀ file, InSuite disk (settings.comparisonInfix.toList <:+: ·.toList)
    settings.comparisonPath file → NoEscape file.name

/-- **Where the names of files are free of escapes, so is the whole report.** -/
theorem clean_of_mem_reports (hnames : settings.NamesClean disk)
    (h : (settings.load disk).run.result = .ok loaded) :
    ∀ report ∈ loaded.reports, report.Clean := by
  obtain ⟨-, hreference, hcomparison⟩ := load_eq_ok_iff.1 h
  obtain ⟨files, hfiles, hloaded⟩ := scanReference_eq_ok_iff.1 hreference
  intro report hreport
  have hplaces := namesPlaces_evaluate hcomparison report hreport
  rw [Loaded.reports, hloaded, evaluate, List.map_map] at hreport
  obtain ⟨file, hfile, rfl⟩ := List.mem_map.1 hreport
  refine ⟨hnames.reference file ?_, fun line hline => ?_, fun line hline place hplace => ?_⟩
  · exact (mem_readSuite_iff (fun _ => isReferenceName_iff) hfiles).1 hfile
  · obtain ⟨test, htest, rfl⟩ := List.mem_map.1 hline
    exact noEscape_of_isTestName (isTestName_of_mem_declaredTests htest)
  · -- a place is a file of the comparison suite and a label in it
    obtain ⟨covering, hcovering, t, ht, -, rfl⟩ := hplaces line hline place hplace
    exact ⟨hnames.comparison covering hcovering,
      noEscape_of_isLabel (isRun_label_of_mem_coveringTests ht).1⟩

/-- A colored page without its colors is the same page in plain. -/
theorem withoutColors_page (hclean : ∀ report ∈ reports, report.Clean)
    (hcolor : settings.color = .always) :
    withoutColors (utf8Bytes (settings.page reports)) =
      utf8Bytes (String.join ((settings.lines reports).map (ReportLine.written .plain))) := by
  rw [Settings.page, hcolor]
  refine withoutColors_join_written fun l hl => ?_
  rcases List.mem_append.1 hl with hl | hl
  · obtain ⟨report, hreport, hl⟩ := List.mem_flatMap.1 hl
    exact (hclean report hreport).noEscape_of_mem_lines hl
  · -- the line of the totals, where they are asked for
    split at hl
    · obtain rfl := List.mem_singleton.1 hl
      exact (Summary.printable_text _).noEscape
    · cases hl

/-! ## What a run leaves behind -/

/-- **Two runs are runs of one audit**: both load the same and come to the same totals, or stop
with the same fault; and they end with the same code. -/
structure OneAudit (disk : DiskAccess Id) (settings settings' : Settings) : Prop where
  summary_eq : (settings.load disk).run.result.map Loaded.summary =
    (settings'.load disk).run.result.map Loaded.summary
  fault_eq : (audit disk settings .unbounded).run.fault =
    (audit disk settings' .unbounded).run.fault
  exitCode_eq : (audit disk settings .unbounded).run.exitCode =
    (audit disk settings' .unbounded).run.exitCode

/-- **The totals are one line more**: a run that loads writes what another one writes and then the
line of the totals, and nothing is written where the loads fail. -/
def AddsTotals (disk : DiskAccess Id) (settings settings' : Settings) : Prop :=
  match (settings.load disk).run.result with
  | .ok loaded =>
    (loaded.summary.line.written settings.color.palette).toList.count '\n' = 1 ∧
    (audit disk settings' .unbounded).run.output = (audit disk settings .unbounded).run.output ++
      utf8Bytes (loaded.summary.line.written settings.color.palette)
  | .error _ => (audit disk settings .unbounded).run.output = [] ∧
      (audit disk settings' .unbounded).run.output = []

variable {how how' : Presentation} {fault : AuditFault}

/-- Nothing that is loaded depends on the presentation, -/
theorem load_presented (how : Presentation) :
    (settings.presented how).load disk = settings.load disk := rfl

/-- and so neither does the end of a run that loads nothing. -/
theorem audit_presented_of_fault (h : (settings.load disk).run.result = .error fault)
    (how : Presentation) :
    (audit disk (settings.presented how) .unbounded).run =
      ⟨(settings.load disk).run.notes, [], some fault, 1⟩ := by
  rw [← load_presented how] at h ⊢
  exact audit_run_of_fault h

/-- Of a run that loads, the page alone is a matter of presentation. -/
theorem audit_presented_of_loaded (h : (settings.load disk).run.result = .ok loaded)
    (how : Presentation) :
    (audit disk (settings.presented how) .unbounded).run =
      ⟨(settings.load disk).run.notes, utf8Bytes ((settings.presented how).page loaded.reports),
        none, if loaded.isRefused settings then 1 else 0⟩ := by
  rw [← load_presented how] at h ⊢
  rw [audit_run_of_loaded h, Loaded.write, Sink.accept_unbounded, loaded.flatten_pieces]
  rfl

theorem oneAudit_presented :
    OneAudit disk (settings.presented how) (settings.presented how') := by
  have hload : ((settings.presented how).load disk).run.result.map Loaded.summary =
      ((settings.presented how').load disk).run.result.map Loaded.summary := by
    rw [load_presented, load_presented]
  cases hresult : (settings.load disk).run.result with
  | error fault =>
    refine ⟨hload, ?_, ?_⟩
    · rw [audit_presented_of_fault hresult, audit_presented_of_fault hresult]
    · rw [audit_presented_of_fault hresult, audit_presented_of_fault hresult]
  | ok loaded =>
    refine ⟨hload, ?_, ?_⟩
    · rw [audit_presented_of_loaded hresult, audit_presented_of_loaded hresult]
    · rw [audit_presented_of_loaded hresult, audit_presented_of_loaded hresult]

/-- Two runs that are colored alike and print the same lines leave the same behind. -/
theorem audit_presented_verbose (hcolor : how.color = how'.color)
    (hsummary : how.summary = how'.summary) (sink : Sink) :
    (audit disk (settings.presented how) sink).run =
      (audit disk (settings.presented how') sink).run := by
  obtain ⟨color, summary, verbose⟩ := how
  obtain ⟨color', summary', verbose'⟩ := how'
  obtain rfl : color = color' := hcolor
  obtain rfl : summary = summary' := hsummary
  rfl

theorem addsTotals_presented (hcolor : how.color = how'.color) (hsummary : how.summary = false)
    (hsummary' : how'.summary = true) :
    AddsTotals disk (settings.presented how) (settings.presented how') := by
  rw [AddsTotals, load_presented]
  cases hresult : (settings.load disk).run.result with
  | error fault =>
    dsimp only
    rw [audit_presented_of_fault hresult, audit_presented_of_fault hresult]
    exact ⟨rfl, rfl⟩
  | ok loaded =>
    have hpage : (settings.presented how').page loaded.reports =
        (settings.presented how).page loaded.reports ++
          loaded.summary.line.written how.color.palette := by
      simp [Settings.page, Settings.lines, Settings.presented, hcolor, hsummary, hsummary',
        Loaded.summary]
    refine ⟨loaded.summary.count_newline_line _, ?_⟩
    rw [audit_presented_of_loaded hresult, audit_presented_of_loaded hresult, hpage,
      utf8Bytes_append]
    rfl

theorem withoutColors_output (hnames : settings.NamesClean disk) (hcolor : how.color = .always)
    (hcolor' : how'.color ≠ .always) (hsummary : how.summary = how'.summary) :
    withoutColors (audit disk (settings.presented how) .unbounded).run.output =
      (audit disk (settings.presented how') .unbounded).run.output := by
  cases hresult : (settings.load disk).run.result with
  | error fault =>
    rw [audit_presented_of_fault hresult, audit_presented_of_fault hresult]
    exact withoutColors_nil
  | ok loaded =>
    have hclean : ∀ report ∈ loaded.reports, report.Clean := clean_of_mem_reports hnames hresult
    have hplain : (settings.presented how').color.palette = .plain := by
      cases hmode : how'.color with
      | always => exact absurd hmode hcolor'
      | auto => simp [Settings.presented, hmode, ColorMode.palette]
      | never => simp [Settings.presented, hmode, ColorMode.palette]
    have htotals : (settings.presented how').summary = (settings.presented how).summary :=
      hsummary.symm
    have hpage : (settings.presented how').page loaded.reports = String.join
        (((settings.presented how).lines loaded.reports).map (ReportLine.written .plain)) := by
      rw [Settings.page, hplain, Settings.lines, Settings.lines, htotals]
    rw [audit_presented_of_loaded hresult, audit_presented_of_loaded hresult, hpage]
    exact withoutColors_page hclean hcolor

/-- **The presentation decides nothing.** However a run is presented, it is a run of the same audit.
Notes of progress change nothing that it leaves behind, totals add one line to the output, and where
no file of the suites has an escape character in its name, a colored output without its color
sequences is the plain one. -/
theorem presentation_immaterial (disk : DiskAccess Id) (settings : Settings)
    (how how' : Presentation) :
    OneAudit disk (settings.presented how) (settings.presented how') ∧
    (how.color = how'.color → how.summary = how'.summary →
      (audit disk (settings.presented how) .unbounded).run =
        (audit disk (settings.presented how') .unbounded).run) ∧
    (how.color = how'.color → how.summary = false → how'.summary = true →
      AddsTotals disk (settings.presented how) (settings.presented how')) ∧
    (settings.NamesClean disk → how.color = .always → how'.color ≠ .always →
      how.summary = how'.summary →
      withoutColors (audit disk (settings.presented how) .unbounded).run.output =
        (audit disk (settings.presented how') .unbounded).run.output) :=
  ⟨oneAudit_presented, fun hcolor hsummary => audit_presented_verbose hcolor hsummary .unbounded,
    addsTotals_presented, withoutColors_output⟩

/-- The report on the test that is covered twice, in color and in plain. -/
theorem presentation_twiceCovered :
    (twiceCoveredSettings false).NamesClean twiceCoveredDisk.access ∧
      withoutColors (audit twiceCoveredDisk.access
        ((twiceCoveredSettings false).presented ⟨.always, true, false⟩) .unbounded).run.output =
      (audit twiceCoveredDisk.access
        ((twiceCoveredSettings false).presented ⟨.auto, true, true⟩) .unbounded).run.output := by
  have hnames : (twiceCoveredSettings false).NamesClean twiceCoveredDisk.access := by
    refine ⟨fun file hfile => ?_, fun file hfile => ?_⟩
    · have hmem := (mem_readSuite_iff (fun _ => isReferenceName_iff)
        readSuite_reference_twiceCovered).2 hfile
      obtain rfl := List.mem_singleton.1 hmem
      exact Printable.noEscape (by decide +kernel)
    · have hmem := (mem_readSuite_iff (fun _ => isComparisonName_iff)
        readSuite_comparison_twiceCovered).2 hfile
      simp only [List.mem_cons, List.not_mem_nil, or_false] at hmem
      rcases hmem with rfl | rfl
      · exact Printable.noEscape (by decide +kernel)
      · exact Printable.noEscape (by decide +kernel)
  exact ⟨hnames, (presentation_immaterial twiceCoveredDisk.access (twiceCoveredSettings false)
    ⟨.always, true, false⟩ ⟨.auto, true, true⟩).2.2.2 hnames rfl (by decide) rfl⟩

end SuiteAudit
