import SuiteAudit.Suite.TestName
/-!
# Suites — the reference side

A reference file declares its tests one to a line: an indent of spaces and
tabs, perhaps the word `async`, the word `def`, a test name, an opening
parenthesis. `declarations` walks over a whole source and takes the
declarations in order; it resumes right after each one it has taken, and a
declaration can only start where a line starts.
-/

namespace SuiteAudit

open Text

/-- A reference file: its name and the tests that it declares, in order. -/
structure ReferenceFile where
  name : String
  tests : List String
deriving Repr, DecidableEq, Inhabited

/-- The characters that indent a line and part its words: spaces and tabs. -/
def isIndent (c : Char) : Bool :=
  c == ' ' || c == '\t'

/-- Reads a gap of one or more spaces and tabs. -/
def readGap? : List Char → Option (List Char)
  | [] => none
  | c :: cs => if isIndent c then some (cs.dropWhile isIndent) else none

/-- Reads past the word `async` and its gap where a text begins with it. A text that does not is
left as it is. -/
def skipAsync? (cs : List Char) : Option (List Char) :=
  match lead? "async".toList cs with
  | some rest => readGap? rest
  | none => some cs

/-- Reads a declaration off the front of a line: the name declared, and what follows the opening
parenthesis. -/
def declaration? (cs : List Char) : Option (List Char × List Char) :=
  (skipAsync? (cs.dropWhile isIndent)).bind fun cs =>
  (lead? "def".toList cs).bind fun cs =>
  (readGap? cs).bind fun cs =>
  (readTestName? cs).bind fun (name, cs) =>
  (lead? "(".toList cs).map fun rest => (name, rest)

theorem length_le_of_readGap? {cs rest : List Char} (h : readGap? cs = some rest) :
    rest.length ≤ cs.length := by
  cases cs with
  | nil => simp [readGap?] at h
  | cons c cs =>
    simp only [readGap?] at h
    split at h
    · simp only [Option.some.injEq] at h
      subst h
      exact Nat.le_succ_of_le (length_dropWhile_le _ _)
    · simp at h

theorem length_le_of_skipAsync? {cs rest : List Char} (h : skipAsync? cs = some rest) :
    rest.length ≤ cs.length := by
  simp only [skipAsync?] at h
  split at h
  · rename_i mid hlead
    have h₁ := length_le_of_lead? hlead
    have h₂ := length_le_of_readGap? h
    omega
  · simp only [Option.some.injEq] at h
    subst h
    exact Nat.le_refl _

/-- A declaration takes up at least one character. -/
theorem length_lt_of_declaration? {cs name rest : List Char}
    (h : declaration? cs = some (name, rest)) : rest.length < cs.length := by
  simp only [declaration?, Option.bind_eq_some_iff, Option.map_eq_some_iff] at h
  obtain ⟨c₁, h₁, c₂, h₂, c₃, h₃, ⟨n, c₄⟩, h₄, c₅, h₅, h₆⟩ := h
  simp only [Prod.mk.injEq] at h₆
  obtain ⟨rfl, rfl⟩ := h₆
  have g₀ := length_dropWhile_le isIndent cs
  have g₁ := length_le_of_skipAsync? h₁
  have g₂ := length_le_of_lead? h₂
  have g₃ := length_le_of_readGap? h₃
  have g₄ := length_lt_of_readTestName? h₄
  have g₅ := length_le_of_lead? h₅
  dsimp only at g₅
  omega

/-- The names declared in a text, in order. The flag says whether the text begins where a line
begins; a line ends at a line feed and nowhere else. -/
def declarations (atLineStart : Bool) (cs : List Char) : List (List Char) :=
  match _h : if atLineStart then declaration? cs else none with
  | some (name, rest) => name :: declarations false rest
  | none =>
    match cs with
    | [] => []
    | c :: rest => declarations (c == '\n') rest
termination_by cs.length
decreasing_by
  · split at _h
    · exact length_lt_of_declaration? _h
    · simp at _h
  · simp

/-- The tests that a reference source declares, in order. -/
def declaredTests (source : String) : List String :=
  (declarations true source.toList).map String.ofList

end SuiteAudit
