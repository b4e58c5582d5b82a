/-!
# Text — leads, and sets of characters

What readers of text have in common. `lead? p cs` takes the characters `p` off
the front of `cs`: every scan of the library that looks for fixed words goes
through it, and `lead?_eq_some_iff` is all that is needed of it. A property of
characters is a set of code points, and where no rule gives such a set it is
written down as its runs of consecutive code points.
-/

namespace SuiteAudit.Text

/-- What follows the lead `p` in a text that begins with it. -/
def lead? : List Char → List Char → Option (List Char)
  | [], cs => some cs
  | _ :: _, [] => none
  | p :: ps, c :: cs => if p = c then lead? ps cs else none

/-- A lead is read exactly when the text is the lead and the rest. -/
theorem lead?_eq_some_iff {p cs rest : List Char} : lead? p cs = some rest ↔ cs = p ++ rest := by
  induction p generalizing cs with
  | nil => simp [lead?]
  | cons a p ih =>
    cases cs with
    | nil => simp [lead?]
    | cons c cs =>
      by_cases h : a = c
      · subst h; simp [lead?, ih]
      · simp [lead?, h, Ne.symm h]

/-- Reading past a lead leaves no more than there was. -/
theorem length_le_of_lead? {p cs rest : List Char} (h : lead? p cs = some rest) :
    rest.length + p.length = cs.length := by
  rw [lead?_eq_some_iff.1 h, List.length_append, Nat.add_comm]

/-- What is left after dropping a run of characters is no longer than the text. -/
theorem length_dropWhile_le (p : Char → Bool) (cs : List Char) :
    (cs.dropWhile p).length ≤ cs.length :=
  (List.dropWhile_sublist p).length_le

/-- A set of code points as runs, each with its first and its last member. -/
abbrev Runs := Array (Nat × Nat)

/-- A character belongs to a set when one of the runs holds its code point. -/
def Runs.contains (runs : Runs) (c : Char) : Bool :=
  runs.any fun run => run.1 ≤ c.toNat && c.toNat ≤ run.2

/-- A blank character is one with the white space property of Unicode. -/
def isBlank (c : Char) : Bool :=
  (0x9 ≤ c.toNat && c.toNat ≤ 0xD) || c.toNat == 0x20 || c.toNat == 0x85 || c.toNat == 0xA0 ||
  c.toNat == 0x1680 || (0x2000 ≤ c.toNat && c.toNat ≤ 0x200A) || c.toNat == 0x2028 ||
  c.toNat == 0x2029 || c.toNat == 0x202F || c.toNat == 0x205F || c.toNat == 0x3000

end SuiteAudit.Text
