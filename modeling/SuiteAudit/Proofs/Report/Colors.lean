import SuiteAudit.Proofs.Report.Lines
import SuiteAudit.Proofs.Text.Utf8
/-!
# Report — lines without their colors

A colored line is the plain line with color sequences put around its text.
`withoutColors` deletes the color sequences from some bytes and knows nothing of
lines. That it leaves the plain lines of the colored ones (`withoutColors_join_written`)
rests on the texts of the lines: an escape character in one of them could begin what
looks like a color sequence, and `NoEscape` says that there is none.
-/

namespace SuiteAudit

open Text

variable {text a b : String} {byte : UInt8} {bytes rest : List UInt8}

/-! ## Deleting color sequences -/

/-- What follows a color sequence at the front of some bytes. It is `ESC [ 0 m`, which gives up
every color, or `ESC [ 3`, a digit and `m`, which turns one on. -/
def afterColor? : List UInt8 → Option (List UInt8)
  | 0x1B :: 0x5B :: 0x30 :: 0x6D :: rest => some rest
  | 0x1B :: 0x5B :: 0x33 :: digit :: 0x6D :: rest =>
    if 0x30 ≤ digit.toNat && digit.toNat ≤ 0x39 then some rest else none
  | _ => none

theorem length_lt_of_afterColor? (h : afterColor? bytes = some rest) :
    rest.length < bytes.length := by
  unfold afterColor? at h
  split at h
  · obtain rfl := Option.some.inj h
    simp only [List.length_cons]
    omega
  · split at h
    · obtain rfl := Option.some.inj h
      simp only [List.length_cons]
      omega
    · cases h
  · cases h

/-- **Bytes without their color sequences.** -/
def withoutColors (bytes : List UInt8) : List UInt8 :=
  match _h : afterColor? bytes with
  | some rest => withoutColors rest
  | none =>
    match bytes with
    | [] => []
    | byte :: rest => byte :: withoutColors rest
termination_by bytes.length
decreasing_by
  · exact length_lt_of_afterColor? _h
  · simp

@[simp] theorem withoutColors_nil : withoutColors [] = [] := by
  rw [withoutColors]
  rfl

theorem withoutColors_of_some (h : afterColor? bytes = some rest) :
    withoutColors bytes = withoutColors rest := by
  rw [withoutColors]
  split
  · rename_i hread
    rw [Option.some.inj (h.symm.trans hread)]
  · rename_i hread
    rw [hread] at h
    cases h

/-- A byte that begins no color sequence stays. -/
theorem withoutColors_cons (h : byte ≠ 0x1B) :
    withoutColors (byte :: rest) = byte :: withoutColors rest := by
  have hnone : afterColor? (byte :: rest) = none := by
    unfold afterColor?
    split <;> simp_all
  rw [withoutColors]
  split
  · rename_i hread
    rw [hread] at hnone
    cases hnone
  · rfl

/-- And so do bytes without an escape. -/
theorem withoutColors_append (h : 0x1B ∉ bytes) :
    withoutColors (bytes ++ rest) = bytes ++ withoutColors rest := by
  induction bytes with
  | nil => rfl
  | cons byte bytes ih =>
    simp only [List.mem_cons, not_or] at h
    rw [List.cons_append, withoutColors_cons (Ne.symm h.1), ih h.2, List.cons_append]

/-- **The sequences that a report writes are color sequences.** -/
theorem withoutColors_resetSequence :
    withoutColors (utf8Bytes resetSequence ++ rest) = withoutColors rest := by
  have hbytes : utf8Bytes resetSequence = [0x1B, 0x5B, 0x30, 0x6D] := by decide +kernel
  rw [hbytes]
  exact withoutColors_of_some rfl

theorem withoutColors_sequence (color : Color) :
    withoutColors (utf8Bytes color.sequence ++ rest) = withoutColors rest := by
  have hbytes : ∃ digit : UInt8, utf8Bytes color.sequence = [0x1B, 0x5B, 0x33, digit, 0x6D] ∧
      (0x30 ≤ digit.toNat && digit.toNat ≤ 0x39) = true := by
    cases color
    · exact ⟨0x32, by decide +kernel, rfl⟩
    · exact ⟨0x33, by decide +kernel, rfl⟩
    · exact ⟨0x31, by decide +kernel, rfl⟩
  obtain ⟨digit, hbytes, hdigit⟩ := hbytes
  rw [hbytes]
  exact withoutColors_of_some (if_pos hdigit)

/-- A sequence that dims what follows is no color sequence. -/
example : withoutColors (utf8Bytes "\x1b[0m\x1b[31ma\x1b[2mb\x1b[0m") = utf8Bytes "a\x1b[2mb" := by
  decide +kernel

/-! ## Texts without an escape -/

/-- **A text holds no escape character.** -/
def NoEscape (text : String) : Prop :=
  '\x1b' ∉ text.toList

@[simp] theorem noEscape_append : NoEscape (a ++ b) ↔ NoEscape a ∧ NoEscape b := by
  simp only [NoEscape, String.toList_append, List.mem_append, not_or]

/-- Its bytes hold none either. -/
theorem NoEscape.not_mem_utf8Bytes (h : NoEscape text) : 0x1B ∉ utf8Bytes text :=
  fun hmem => h (mem_of_mem_utf8Bytes hmem (by decide))

/-- A text holds no character below the printable ones of ASCII. -/
def Printable (text : String) : Prop :=
  ∀ c ∈ text.toList, 0x20 ≤ c.toNat

instance (text : String) : Decidable (Printable text) :=
  List.decidableBAll (fun c : Char => 0x20 ≤ c.toNat) text.toList

@[simp] theorem printable_append : Printable (a ++ b) ↔ Printable a ∧ Printable b := by
  simp only [Printable, String.toList_append, List.forall_mem_append]

theorem Printable.noEscape (h : Printable text) : NoEscape text :=
  fun hmem => absurd (h _ hmem) (by decide)

theorem Printable.newline_not_mem (h : Printable text) : '\n' ∉ text.toList :=
  fun hmem => absurd (h _ hmem) (by decide)

theorem printable_toString (n : Nat) : Printable (toString n) := by
  intro c hc
  rw [Nat.toString_eq_repr, Nat.toList_repr] at hc
  have hdigit := Nat.isDigit_of_mem_toDigits (by decide) (by decide) hc
  simp only [Char.isDigit, Bool.and_eq_true, decide_eq_true_eq] at hdigit
  have hlow : 48 ≤ c.toNat := hdigit.1
  omega

/-! ## The texts of a report -/

/-- Numbers and words make up the totals. -/
theorem Summary.printable_text (summary : Summary) : Printable summary.text := by
  simp only [text, printable_append, printable_toString, true_and, and_true]
  decide +kernel

/-- The texts of a test are words of the layout around the test and its place. -/
theorem TestLine.noEscape_of_mem_lines {line : TestLine} {l : ReportLine}
    (htest : NoEscape line.test)
    (hplace : ∀ place, line.outcome = .covered place → NoEscape place.file ∧ NoEscape place.label)
    (h : l ∈ line.lines) : NoEscape l.text := by
  have hwords : NoEscape " |  " ∧ NoEscape " |  |  " ∧ NoEscape ":'" ∧ NoEscape "'" := by
    refine ⟨?_, ?_, ?_, ?_⟩ <;> exact Printable.noEscape (by decide +kernel)
  obtain ⟨test, outcome⟩ := line
  have hline : NoEscape (" |  " ++ test) := noEscape_append.2 ⟨hwords.1, htest⟩
  cases outcome with
  | ignored =>
    obtain rfl := List.mem_singleton.1 h
    exact hline
  | uncovered =>
    obtain rfl := List.mem_singleton.1 h
    exact hline
  | covered place =>
    obtain ⟨hfile, hlabel⟩ := hplace place rfl
    rcases List.mem_cons.1 h with rfl | h
    · exact hline
    · obtain rfl := List.mem_singleton.1 h
      simp only [noEscape_append]
      exact ⟨⟨⟨⟨hwords.2.1, hfile⟩, hwords.2.2.1⟩, hlabel⟩, hwords.2.2.2⟩

/-- **Everything that a section names is free of escapes**: its file, its tests and the places that
cover them. -/
structure FileReport.Clean (report : FileReport) : Prop where
  file : NoEscape report.file
  test : ∀ line ∈ report.tests, NoEscape line.test
  place : ∀ line ∈ report.tests, ∀ place, line.outcome = .covered place →
    NoEscape place.file ∧ NoEscape place.label

/-- And so are its lines. -/
theorem FileReport.Clean.noEscape_of_mem_lines {report : FileReport} {l : ReportLine}
    (h : report.Clean) (hl : l ∈ report.lines) : NoEscape l.text := by
  rcases List.mem_cons.1 hl with rfl | hl
  · exact h.file
  · obtain ⟨line, hline, hl⟩ := List.mem_flatMap.1 hl
    exact line.noEscape_of_mem_lines (h.test line hline) (h.place line hline) hl

/-! ## Lines -/

/-- The colored line without its colors is the plain one. -/
theorem ReportLine.withoutColors_written {line : ReportLine} (h : NoEscape line.text) :
    withoutColors (utf8Bytes (line.written .colored) ++ rest) =
      utf8Bytes (line.written .plain) ++ withoutColors rest := by
  have hcolored : line.written .colored =
      resetSequence ++ line.color.sequence ++ line.text ++ resetSequence ++ "\n" := rfl
  have hplain : line.written .plain = line.text ++ "\n" := rfl
  have hnewline : 0x1B ∉ utf8Bytes "\n" := by decide +kernel
  simp only [hcolored, hplain, utf8Bytes_append, List.append_assoc]
  rw [withoutColors_resetSequence, withoutColors_sequence, withoutColors_append h.not_mem_utf8Bytes,
    withoutColors_resetSequence, withoutColors_append hnewline]

/-- **Colored lines without their colors are the plain lines**, where no text holds an escape. -/
theorem withoutColors_join_written {lines : List ReportLine}
    (h : ∀ line ∈ lines, NoEscape line.text) :
    withoutColors (utf8Bytes (String.join (lines.map (ReportLine.written .colored)))) =
      utf8Bytes (String.join (lines.map (ReportLine.written .plain))) := by
  induction lines with
  | nil => simp
  | cons line lines ih =>
    rw [List.map_cons, List.map_cons, String.join_cons, String.join_cons, utf8Bytes_append,
      utf8Bytes_append, line.withoutColors_written (h line (by simp)),
      ih fun l hl => h l (by simp [hl])]

/-- The line of the totals is one line: a line feed ends it, and there is no other. -/
theorem Summary.count_newline_line (summary : Summary) (palette : Palette) :
    (summary.line.written palette).toList.count '\n' = 1 := by
  rw [ReportLine.count_newline_written, Summary.line,
    List.count_eq_zero.2 summary.printable_text.newline_not_mem]

end SuiteAudit
