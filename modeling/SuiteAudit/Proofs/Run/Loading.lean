import SuiteAudit.Program
import SuiteAudit.Proofs.Report.Lines
import SuiteAudit.Proofs.Run.ExitCode
import SuiteAudit.Proofs.Text.Utf8
/-!
# Run — all of the report or none of it

A run loads three things in a fixed order, and each of them may fail on its own. The
fault of the run is that of the first load that fails, whatever the later ones would
have come to (`Settings.StopsWith`), and then nothing is written. Where all three
succeed, everything is written: the lines of every section in the order of the
reference files, and the totals below them where they are asked for.
-/

namespace SuiteAudit

variable {disk : DiskAccess Id} {settings : Settings} {fault : AuditFault}

/-- **The fault that stops a run**: that of the first load that fails. -/
inductive Settings.StopsWith (settings : Settings) (disk : DiskAccess Id) : AuditFault → Prop
  /-- The names to ignore cannot be loaded. -/
  | ignored {fault : AuditFault} : (settings.loadIgnored disk).run = .error fault →
      StopsWith settings disk fault
  /-- They can, and the reference suite cannot. -/
  | reference {fault : AuditFault} {ignored : IgnoreSet} :
      (settings.loadIgnored disk).run = .ok ignored →
      (settings.loadReference disk).run = .error fault → StopsWith settings disk fault
  /-- Both can, and the comparison suite cannot. -/
  | comparison {fault : AuditFault} {ignored : IgnoreSet} {reference : List ReferenceFile} :
      (settings.loadIgnored disk).run = .ok ignored →
      (settings.loadReference disk).run = .ok reference →
      (settings.loadComparison disk).run = .error fault → StopsWith settings disk fault

/-- Loading fails with the fault that stops the run. -/
theorem load_eq_error_iff :
    (settings.load disk).run.result = .error fault ↔ settings.StopsWith disk fault := by
  rw [load_result_run]
  constructor
  · intro h
    -- the loads are looked at in their order, up to the first that fails
    cases hignored : (settings.loadIgnored disk).run with
    | error fault' =>
      rw [hignored] at h
      obtain rfl := Except.error.inj h
      exact .ignored hignored
    | ok ignored =>
      cases hreference : (settings.loadReference disk).run with
      | error fault' =>
        rw [hignored, hreference] at h
        obtain rfl := Except.error.inj h
        exact .reference hignored hreference
      | ok reference =>
        cases hcomparison : (settings.loadComparison disk).run with
        | error fault' =>
          rw [hignored, hreference, hcomparison] at h
          obtain rfl := Except.error.inj h
          exact .comparison hignored hreference hcomparison
        | ok comparison =>
          rw [hignored, hreference, hcomparison] at h
          cases h
  · intro h
    cases h with
    | ignored hignored =>
      rw [hignored]
      rfl
    | reference hignored hreference =>
      rw [hignored, hreference]
      rfl
    | comparison hignored hreference hcomparison =>
      rw [hignored, hreference, hcomparison]
      rfl

/-- Not everything loads exactly if there is a fault that stops the run. -/
theorem not_loads_iff : ¬ settings.Loads disk ↔ ∃ fault, settings.StopsWith disk fault := by
  rw [← exists_load_eq_ok_iff]
  simp only [← load_eq_error_iff]
  cases (settings.load disk).run.result <;> simp

/-! ## What is written -/

/-- A sink has room for so many bytes. -/
def Sink.HasRoom : Sink → Nat → Prop
  | .unbounded, _ => True
  | .bounded room _, size => size ≤ room

/-- **Where there is room for all of them, all pieces are taken.** -/
theorem Sink.accept_of_hasRoom {sink : Sink} {pieces : List (List UInt8)}
    (h : sink.HasRoom pieces.flatten.length) : sink.accept pieces = (pieces.flatten, none) := by
  cases sink with
  | unbounded => exact Sink.accept_unbounded pieces
  | bounded room fault =>
    have hroom : pieces.flatten.length ≤ room := h
    rw [Sink.accept_bounded, List.take_of_length_le hroom, if_neg (Nat.not_lt.2 hroom)]

/-- The lines that a run writes: those of the sections, and the totals where they are asked for. -/
def Settings.lines (settings : Settings) (reports : List FileReport) : List ReportLine :=
  reportLines reports ++ if settings.summary then [(Summary.ofReports reports).line] else []

/-- What a run writes, as text. -/
def Settings.page (settings : Settings) (reports : List FileReport) : String :=
  String.join ((settings.lines reports).map (ReportLine.written settings.color.palette))

theorem Loaded.join_pieces (loaded : Loaded) :
    String.join (loaded.pieces settings) = settings.page loaded.reports := by
  rw [pieces, String.join_append, join_reportPieces, Settings.page, Settings.lines, List.map_append,
    String.join_append]
  cases settings.summary with
  | false => simp
  | true => simp [Summary.join_pieces, summary]

/-- The bytes that a run hands to its sink are those of its page. -/
theorem Loaded.flatten_pieces (loaded : Loaded) :
    ((loaded.pieces settings).map Text.utf8Bytes).flatten =
      Text.utf8Bytes (settings.page loaded.reports) := by
  rw [← loaded.join_pieces, Text.utf8Bytes_join]

/-- A sink with room for it takes the whole page. -/
theorem Loaded.write_of_hasRoom {loaded : Loaded} {sink : Sink} {notes : List String}
    (h : sink.HasRoom (Text.utf8Bytes (settings.page loaded.reports)).length) :
    (loaded.write settings sink notes).fault = none ∧
      (loaded.write settings sink notes).output =
        Text.utf8Bytes (settings.page loaded.reports) := by
  rw [← loaded.flatten_pieces] at h ⊢
  rw [write, Sink.accept_of_hasRoom h]
  exact ⟨rfl, rfl⟩

/-- **A run writes all of its report or none of it.** If some load fails, the run writes nothing,
whatever the output takes, and stops with the fault of the first load that fails. If none does, a
run whose output has room writes every line of every section, in the order of the reference files,
and then the totals if they are asked for. -/
theorem audit_all_or_nothing (disk : DiskAccess Id) (settings : Settings) :
    (¬ settings.Loads disk → ∃ fault, settings.StopsWith disk fault ∧ ∀ sink,
      (audit disk settings sink).run.output = [] ∧
      (audit disk settings sink).run.exitCode = 1 ∧
      (audit disk settings sink).run.fault = some fault ∧
      (settings.verbose = false →
        (audit disk settings sink).run.messages settings = fault.report)) ∧
    ∀ ignored reference comparison,
      (settings.loadIgnored disk).run = .ok ignored →
      (settings.loadReference disk).run = .ok reference →
      (settings.loadComparison disk).run = .ok comparison →
      ∃ reports, List.Forall₂ (ReportsOn ignored comparison) reference reports ∧
        ∀ sink, sink.HasRoom (Text.utf8Bytes (settings.page reports)).length →
          (audit disk settings sink).run.fault = none ∧
          (audit disk settings sink).run.output = Text.utf8Bytes (settings.page reports) := by
  constructor
  · intro hloads
    obtain ⟨fault, hstops⟩ := not_loads_iff.1 hloads
    refine ⟨fault, hstops, fun sink => ?_⟩
    rw [audit_run_of_fault (load_eq_error_iff.2 hstops)]
    refine ⟨rfl, rfl, rfl, fun hverbose => ?_⟩
    simp [AuditRun.messages, hverbose]
  · intro ignored reference comparison hignored hreference hcomparison
    have hload : (settings.load disk).run.result = .ok ⟨ignored, reference, comparison⟩ :=
      load_eq_ok_iff.2 ⟨hignored, hreference, hcomparison⟩
    have hreports : List.Forall₂ (ReportsOn ignored comparison) reference
        (evaluate ignored reference comparison) := by
      rw [evaluate, List.forall₂_map_right_iff, List.forall₂_same]
      exact fun file _ => reportsOn_iff.2 rfl
    refine ⟨_, hreports, fun sink hroom => ?_⟩
    rw [audit_run_of_loaded hload]
    exact Loaded.write_of_hasRoom hroom

end SuiteAudit
