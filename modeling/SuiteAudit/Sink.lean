import SuiteAudit.Fault.Disk
/-!
# Sink — where output goes

A sink takes pieces of output one after the other. Some sinks have room for so
many bytes and no more: the piece that does not fit is taken as far as there is
room, the write fails, and nothing is written after that.

What a bounded sink is left with is then a matter of the bytes alone and not of
the pieces that they came in (`accept_bounded`). Things may also be written in
turn, each on what those before it left and up to the first that fails, and the
things they are made of likewise, as deep as one likes: it comes to the same as
handing over all pieces at once (`Writes.andThen`, `Writes.inTurn`).
-/

namespace SuiteAudit

/-- A place that takes output. -/
inductive Sink where
  /-- A sink that takes everything. -/
  | unbounded
  /-- A sink with room for some bytes, and the fault of a write that goes beyond them. -/
  | bounded (room : Nat) (fault : DiskFault)
deriving Repr, Inhabited

namespace Sink

/-- Writes pieces to a sink: the bytes that end up in it, and the fault of the write that failed
if one did. -/
def accept : Sink → List (List UInt8) → List UInt8 × Option DiskFault
  | unbounded, pieces => (pieces.flatten, none)
  | bounded _ _, [] => ([], none)
  | bounded room fault, piece :: pieces =>
    if piece.length ≤ room then
      let (taken, failed) := accept (bounded (room - piece.length) fault) pieces
      (piece ++ taken, failed)
    else
      (piece.take room, some fault)

variable {sink : Sink} {room : Nat} {fault : DiskFault} {pieces more : List (List UInt8)}

@[simp] theorem accept_unbounded (pieces : List (List UInt8)) :
    unbounded.accept pieces = (pieces.flatten, none) := by
  rw [accept]

/-- **A bounded sink takes the bytes that there is room for**, and fails if there are more. -/
theorem accept_bounded :
    (bounded room fault).accept pieces =
      (pieces.flatten.take room, if room < pieces.flatten.length then some fault else none) := by
  induction pieces generalizing room with
  | nil => simp [accept]
  | cons piece pieces ih =>
    rw [accept, List.flatten_cons, List.length_append]
    split
    · rename_i hfits
      -- the piece is taken whole, and the others have less room
      have hfails : room - piece.length < pieces.flatten.length ↔
          room < piece.length + pieces.flatten.length := by omega
      simp only [ih, List.take_append, List.take_of_length_le hfits, hfails]
    · rename_i hfits
      rw [List.take_append_of_le_length (by omega), if_pos (by omega)]

/-! ## One after the other -/

/-- The sink that is left when some bytes were taken. -/
def left : Sink → List UInt8 → Sink
  | unbounded, _ => unbounded
  | bounded room fault, taken => bounded (room - taken.length) fault

/-- Behind pieces that fail nothing is written, whatever it is. -/
theorem accept_append_of_failed {taken : List UInt8} (h : sink.accept pieces = (taken, some fault))
    (more : List (List UInt8)) : sink.accept (pieces ++ more) = (taken, some fault) := by
  cases sink with
  | unbounded => simp at h
  | bounded room fault' =>
    rw [accept_bounded] at h ⊢
    obtain ⟨rfl, hfailed⟩ := Prod.mk.inj h
    split at hfailed
    · rename_i hroom
      rw [List.flatten_append, List.take_append_of_le_length (Nat.le_of_lt hroom),
        if_pos (by rw [List.length_append]; omega), hfailed]
    · cases hfailed

/-- Behind pieces that are taken the sink that they leave is written to. -/
theorem accept_append_of_taken {taken : List UInt8} (h : sink.accept pieces = (taken, none))
    (more : List (List UInt8)) :
    sink.accept (pieces ++ more) =
      (taken ++ ((sink.left taken).accept more).1, ((sink.left taken).accept more).2) := by
  cases sink with
  | unbounded =>
    rw [accept_unbounded] at h
    obtain rfl := (Prod.mk.inj h).1
    simp [left]
  | bounded room fault =>
    rw [accept_bounded] at h
    obtain ⟨rfl, hfailed⟩ := Prod.mk.inj h
    split at hfailed
    · cases hfailed
    · rename_i hroom
      have htaken : pieces.flatten.take room = pieces.flatten :=
        List.take_of_length_le (Nat.le_of_not_lt hroom)
      have hfails : room < pieces.flatten.length + more.flatten.length ↔
          room - pieces.flatten.length < more.flatten.length := by omega
      rw [left, htaken, accept_bounded, accept_bounded, List.flatten_append, List.take_append,
        htaken, List.length_append]
      simp only [hfails]

/-- Writes one thing, and the next one to the sink that it left. Behind a thing that fails nothing
is written. -/
def andThen (first next : Sink → List UInt8 × Option DiskFault) (sink : Sink) :
    List UInt8 × Option DiskFault :=
  match first sink with
  | (taken, some fault) => (taken, some fault)
  | (taken, none) =>
    let (more, failed) := next (sink.left taken)
    (taken ++ more, failed)

/-- Writes things in turn, each to the sink that those before it left. A thing that fails is the
last one. -/
def inTurn {α : Type} (write : α → Sink → List UInt8 × Option DiskFault) :
    List α → Sink → List UInt8 × Option DiskFault
  | [] => (·.accept [])
  | x :: xs => andThen (write x) (inTurn write xs)

/-- **A way of writing hands over some pieces**: whatever the sink, it comes to the same. -/
def Writes (write : Sink → List UInt8 × Option DiskFault) (pieces : List (List UInt8)) : Prop :=
  ∀ sink, write sink = sink.accept pieces

theorem Writes.andThen {first next : Sink → List UInt8 × Option DiskFault}
    (hfirst : Writes first pieces) (hnext : Writes next more) :
    Writes (andThen first next) (pieces ++ more) := by
  intro sink
  rw [Sink.andThen, hfirst]
  split
  · rename_i htaken
    rw [accept_append_of_failed htaken]
  · rename_i htaken
    rw [accept_append_of_taken htaken, hnext]

/-- **Things that are written in turn hand over the pieces of each of them.** -/
theorem Writes.inTurn {α : Type} {write : α → Sink → List UInt8 × Option DiskFault}
    {pieces : α → List (List UInt8)} (h : ∀ x, Writes (write x) (pieces x)) (xs : List α) :
    Writes (inTurn write xs) (xs.flatMap pieces) := by
  induction xs with
  | nil => exact fun _ => rfl
  | cons x xs ih =>
    rw [List.flatMap_cons]
    exact (h x).andThen ih

end Sink

end SuiteAudit
