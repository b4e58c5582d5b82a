import SuiteAudit.Proofs.Run.Loading
/-!
# Run — output that cannot be written to its end

A sink may take so many bytes of a report and no more. Where it fails depends on the bytes
alone: the failure may lie in a color sequence, inside a text, between a text and its line
feed, between two lines or between two files. `boundedSink_cleanPrefix` says that in each
of these places the sink is left with exactly the bytes that it had room for, that the
failure is reported, and that nothing behind it is written.

The bytes are those of the lines of the page (`pageBytes`). They may be handed over as one
list of pieces, or written as the page is built, file by file, line by line and piece by
piece, where whatever fails is the last thing that is written (`writePage`).
-/

namespace SuiteAudit

open Text

variable {palette : Palette} {reports : List FileReport} {summary : Summary} {room : Nat}
variable {fault : DiskFault} {pieces before : List (List UInt8)} {piece : List UInt8}

/-! ## The page -/

/-- What is handed to a sink for some sections and the totals below them. -/
def pagePieces (palette : Palette) (reports : List FileReport) (summary : Summary) :
    List (List UInt8) :=
  (reportPieces palette reports ++ summary.pieces palette).map utf8Bytes

/-- The bytes of the page: those of its lines, each of them as it is written. -/
def pageBytes (palette : Palette) (reports : List FileReport) (summary : Summary) : List UInt8 :=
  utf8Bytes
    (String.join ((reportLines reports ++ [summary.line]).map (ReportLine.written palette)))

theorem flatten_pagePieces :
    (pagePieces palette reports summary).flatten = pageBytes palette reports summary := by
  rw [pagePieces, ← utf8Bytes_join, String.join_append, join_reportPieces, summary.join_pieces,
    pageBytes, List.map_append, String.join_append]
  simp

/-- Writes one line, piece by piece. -/
def writeLine (palette : Palette) (status : Status) (text : String) :
    Sink → List UInt8 × Option DiskFault :=
  Sink.inTurn (fun piece sink => sink.accept [utf8Bytes piece]) (linePieces palette status text)

/-- Writes a test, and behind it the place that covers it if there is one. -/
def TestLine.writeTo (palette : Palette) (line : TestLine) :
    Sink → List UInt8 × Option DiskFault :=
  match line.outcome with
  | .covered place => Sink.andThen (writeLine palette line.outcome.status line.text)
      (writeLine palette line.outcome.status place.text)
  | _ => writeLine palette line.outcome.status line.text

/-- Writes a section: its header, and then its tests in turn. -/
def FileReport.writeTo (palette : Palette) (report : FileReport) :
    Sink → List UInt8 × Option DiskFault :=
  Sink.andThen (writeLine palette report.status report.file)
    (Sink.inTurn (TestLine.writeTo palette) report.tests)

/-- Writes the page: the sections in turn, and then the totals. -/
def writePage (palette : Palette) (reports : List FileReport) (summary : Summary) :
    Sink → List UInt8 × Option DiskFault :=
  Sink.andThen (Sink.inTurn (FileReport.writeTo palette) reports)
    (writeLine palette summary.status summary.text)

theorem writes_writeLine (status : Status) (text : String) :
    Sink.Writes (writeLine palette status text)
      ((linePieces palette status text).map utf8Bytes) := by
  rw [List.map_eq_flatMap]
  exact Sink.Writes.inTurn (fun piece sink => rfl) _

theorem TestLine.writes_writeTo (line : TestLine) :
    Sink.Writes (line.writeTo palette) ((line.pieces palette).map utf8Bytes) := by
  obtain ⟨test, outcome⟩ := line
  cases outcome with
  | ignored | uncovered =>
    simp only [writeTo, pieces, List.append_nil]
    exact writes_writeLine _ _
  | covered place =>
    simp only [writeTo, pieces, List.map_append]
    exact (writes_writeLine _ _).andThen (writes_writeLine _ _)

theorem FileReport.writes_writeTo (report : FileReport) :
    Sink.Writes (report.writeTo palette) ((report.pieces palette).map utf8Bytes) := by
  rw [pieces, List.map_append, List.map_flatMap]
  exact (writes_writeLine _ _).andThen (.inTurn TestLine.writes_writeTo _)

/-- **Written as it is built, the page comes to the same as all its pieces at once.** -/
theorem writes_writePage :
    Sink.Writes (writePage palette reports summary) (pagePieces palette reports summary) := by
  rw [pagePieces, List.map_append, reportPieces, List.map_flatMap]
  exact (Sink.Writes.inTurn FileReport.writes_writeTo _).andThen (writes_writeLine _ _)

/-! ## Where a sink fails -/

/-- **The piece at which a bounded sink fails**: there is room for all that comes before it, and
not for the piece as well. -/
def FailsAt (room : Nat) (before : List (List UInt8)) (piece : List UInt8) : Prop :=
  before.flatten.length ≤ room ∧ room < before.flatten.length + piece.length

/-- If the pieces are more than there is room for, the sink fails at one of them. -/
theorem exists_failsAt (h : room < pieces.flatten.length) :
    ∃ before piece after, pieces = before ++ piece :: after ∧ FailsAt room before piece := by
  induction pieces generalizing room with
  | nil => simp at h
  | cons piece pieces ih =>
    rw [List.flatten_cons, List.length_append] at h
    rcases Nat.lt_or_ge room piece.length with hlt | hge
    · exact ⟨[], piece, pieces, rfl, Nat.zero_le _, by simpa using hlt⟩
    · -- the first piece is taken whole, and the sink fails behind it
      have hrest : room - piece.length < pieces.flatten.length := by omega
      obtain ⟨before, last, after, rfl, hle, hlt⟩ := ih hrest
      refine ⟨piece :: before, last, after, rfl, ?_, ?_⟩
      · rw [List.flatten_cons, List.length_append]
        omega
      · rw [List.flatten_cons, List.length_append]
        omega

/-- **Nothing is written behind the piece at which a sink fails.** -/
theorem accept_of_failsAt (h : FailsAt room before piece) (after : List (List UInt8)) :
    (Sink.bounded room fault).accept (before ++ piece :: after) =
      (before.flatten ++ piece.take (room - before.flatten.length), some fault) := by
  have hpieces : before ++ piece :: after = (before ++ [piece]) ++ after := by simp
  rw [hpieces]
  refine Sink.accept_append_of_failed ?_ after
  rw [Sink.accept_bounded, List.flatten_append, List.flatten_singleton, List.take_append,
    List.take_of_length_le h.1, if_pos (by rw [List.length_append]; exact h.2)]

/-- **A bounded sink is left with a clean prefix** of `whole`, which is handed to it in some
pieces. -/
structure CleanPrefix (pieces : List (List UInt8)) (whole : List UInt8) (room : Nat)
    (fault : DiskFault) : Prop where
  /-- A sink that takes everything takes these bytes, and does not fail. -/
  unbounded : Sink.unbounded.accept pieces = (whole, none)
  /-- The sink takes the first bytes, as many as there is room for. -/
  taken : ((Sink.bounded room fault).accept pieces).1 = whole.take (min room whole.length)
  /-- The failure is reported, and only where there is one. -/
  reported : ((Sink.bounded room fault).accept pieces).2.map AuditFault.write =
    if room < whole.length then some (.write fault) else none
  /-- Where there is one, it falls at some piece, -/
  falls : room < whole.length →
    ∃ before piece after, pieces = before ++ piece :: after ∧ FailsAt room before piece
  /-- and whichever piece that is, what would follow it makes no difference. -/
  stops : ∀ before piece after, pieces = before ++ piece :: after → FailsAt room before piece →
    ∀ other, (Sink.bounded room fault).accept (before ++ piece :: other) =
      (Sink.bounded room fault).accept pieces
  /-- Nor does it matter in which groups the pieces are written, as long as a group that fails is
  the last one. -/
  grouped : ∀ groups, groups.flatten = pieces →
    Sink.inTurn (fun group sink => sink.accept group) groups (.bounded room fault) =
      (Sink.bounded room fault).accept pieces

theorem cleanPrefix_flatten (pieces : List (List UInt8)) (room : Nat) (fault : DiskFault) :
    CleanPrefix pieces pieces.flatten room fault where
  unbounded := Sink.accept_unbounded pieces
  taken := by
    rw [Sink.accept_bounded]
    exact List.take_eq_take_min
  reported := by
    rw [Sink.accept_bounded]
    split <;> rfl
  falls := exists_failsAt
  stops before piece after hpieces hfails other := by
    rw [hpieces, accept_of_failsAt hfails, accept_of_failsAt hfails]
  grouped groups hgroups := by
    rw [Sink.Writes.inTurn (fun group sink => rfl) groups, List.flatMap_id', hgroups]

/-- A run into a sink that takes everything leaves the bytes of its page. -/
theorem Loaded.output_write_unbounded (loaded : Loaded) (settings : Settings)
    (notes : List String) :
    (loaded.write settings .unbounded notes).output = utf8Bytes (settings.page loaded.reports) := by
  rw [write, Sink.accept_unbounded, loaded.flatten_pieces]

/-- A run into a bounded sink leaves a prefix of what it leaves in an unbounded one, and stops with
the fault of the sink if that is not all. -/
theorem Loaded.write_bounded (loaded : Loaded) (settings : Settings) (notes : List String)
    (room : Nat) (fault : DiskFault) :
    (loaded.write settings (.bounded room fault) notes).output =
        (loaded.write settings .unbounded notes).output.take room ∧
      (loaded.write settings (.bounded room fault) notes).fault =
        if room < (loaded.write settings .unbounded notes).output.length then some (.write fault)
        else none := by
  rw [write, write, Sink.accept_unbounded, Sink.accept_bounded]
  by_cases hroom : room < ((loaded.pieces settings).map utf8Bytes).flatten.length
  · simp only [if_pos hroom, and_self]
  · simp only [if_neg hroom, and_self]

/-- **A sink that fails is left with a clean prefix of the page, and the failure is reported.**
Whatever the sections, the totals and the palette are, a sink with some room takes exactly the bytes
of the page that fit, the write fails with the fault of the sink exactly if there are more, and
nothing is written behind the piece at which it fails. The same is left where the page is written
file by file, line by line and piece by piece. A run over loaded suites writes the bytes of its page
in this way, and reports the fault as its own. -/
theorem boundedSink_cleanPrefix (palette : Palette) (reports : List FileReport) (summary : Summary)
    (room : Nat) (fault : DiskFault) :
    CleanPrefix (pagePieces palette reports summary) (pageBytes palette reports summary) room
        fault ∧
      (∀ sink, writePage palette reports summary sink =
        sink.accept (pagePieces palette reports summary)) ∧
      ∀ (settings : Settings) (loaded : Loaded) (notes : List String),
        (loaded.write settings .unbounded notes).output =
            utf8Bytes (settings.page loaded.reports) ∧
          (loaded.write settings (.bounded room fault) notes).output =
            (loaded.write settings .unbounded notes).output.take room ∧
          (loaded.write settings (.bounded room fault) notes).fault =
            if room < (loaded.write settings .unbounded notes).output.length
            then some (.write fault) else none := by
  refine ⟨?_, writes_writePage, fun settings loaded notes =>
    ⟨loaded.output_write_unbounded settings notes,
      loaded.write_bounded settings notes room fault⟩⟩
  rw [← flatten_pagePieces]
  exact cleanPrefix_flatten _ room fault

/-- A sink that fails inside the sequence that turns a color on. -/
example : (Sink.bounded 6 .sinkFull).accept
    (pagePieces .colored [⟨"test_a.py", .covered, []⟩] ⟨1, 0, 0, 0⟩) =
      (utf8Bytes "\x1b[0m\x1b[", some .sinkFull) := by
  decide +kernel

end SuiteAudit
