/-!
# Status — how a test or a file came out

Three grades, in order of severity. The grade of a whole is the worst grade of
its parts, so a grade only ever escalates. Each grade has the color in which
its lines are written.
-/

namespace SuiteAudit

/-- How a reference test, or a whole reference file, came out. -/
inductive Status where
  /-- Some comparison test names it. -/
  | covered
  /-- It is on the ignore list. -/
  | ignored
  /-- No comparison test names it, and nothing excuses it. -/
  | uncovered
deriving Repr, DecidableEq, Inhabited

/-- The color of a line of the report. -/
inductive Color where
  | green
  | yellow
  | red
deriving Repr, DecidableEq, Inhabited

namespace Status

/-- How bad a status is. -/
def severity : Status → Nat
  | covered => 0
  | ignored => 1
  | uncovered => 2

instance : Ord Status := ⟨fun a b => compare a.severity b.severity⟩

/-- The worse of two statuses. -/
def escalate (a b : Status) : Status :=
  if a.severity ≤ b.severity then b else a

/-- The worst of a list of statuses; an empty list is covered. -/
def worst (statuses : List Status) : Status :=
  statuses.foldl escalate covered

/-- The color of a status. -/
def color : Status → Color
  | covered => .green
  | ignored => .yellow
  | uncovered => .red

theorem severity_injective {a b : Status} (h : a.severity = b.severity) : a = b := by
  cases a <;> cases b <;> simp_all [severity]

@[simp] theorem severity_escalate (a b : Status) :
    (a.escalate b).severity = max a.severity b.severity := by
  unfold escalate
  split <;> omega

@[simp] theorem covered_escalate (a : Status) : covered.escalate a = a := by
  cases a <;> rfl

@[simp] theorem escalate_covered (a : Status) : a.escalate covered = a := by
  cases a <;> rfl

theorem escalate_assoc (a b c : Status) :
    (a.escalate b).escalate c = a.escalate (b.escalate c) :=
  severity_injective (by simp [Nat.max_assoc])

end Status

end SuiteAudit
