import SuiteAudit.Suite.TestName
import SuiteAudit.Text.Word
/-!
# Suites — the comparison side

A comparison file says which reference tests it covers. A covering test opens
with the call `test('label', () => {` at the end of a line, and the first
thing after it that is not blank is the comment `// test_name`. The label is a
run of word characters and blanks, and the name must not run on into a longer
word. `coveringBlocks` walks over a whole source and takes such blocks from
left to right, resuming right after the name of each block it has taken.
-/

namespace SuiteAudit

open Text

/-- A comparison test that covers a reference test: its label, and the test named in its
comment. -/
structure CoveringTest where
  label : String
  covers : String
deriving Repr, DecidableEq, Inhabited

/-- A comparison file: its name and its covering tests, in order. -/
structure ComparisonFile where
  name : String
  tests : List CoveringTest
deriving Repr, DecidableEq, Inhabited

/-- The characters of a label. -/
def isLabelChar (c : Char) : Bool :=
  isWord c || isBlank c

/-- Reads a label: the longest run of label characters, which must not be empty. -/
def readLabel? (cs : List Char) : Option (List Char × List Char) :=
  if (cs.takeWhile isLabelChar).isEmpty then none
  else some (cs.takeWhile isLabelChar, cs.dropWhile isLabelChar)

/-- Reads a line break: a line feed, with or without a carriage return before it. -/
def readLineBreak? : List Char → Option (List Char)
  | '\r' :: '\n' :: rest => some rest
  | '\n' :: rest => some rest
  | _ => none

/-- Reads a run of one or more blanks. -/
def readBlanks? : List Char → Option (List Char)
  | [] => none
  | c :: cs => if isBlank c then some (cs.dropWhile isBlank) else none

/-- A word ends where the text ends or goes on with something other than a word character. -/
def wordEnds (cs : List Char) : Bool :=
  cs.head?.all fun c => !isWord c

/-- Reads the block of a covering test off the front of a text: its label, the name that it
covers, and what follows the name. -/
def coveringBlock? (cs : List Char) : Option ((List Char × List Char) × List Char) :=
  (lead? "test('".toList cs).bind fun cs =>
  (readLabel? cs).bind fun (label, cs) =>
  (lead? "', () => \x7b".toList cs).bind fun cs =>
  (readLineBreak? cs).bind fun cs =>
  (readBlanks? cs).bind fun cs =>
  (lead? "// ".toList cs).bind fun cs =>
  (readTestName? cs).bind fun (name, rest) =>
  if wordEnds rest then some ((label, name), rest) else none

theorem length_le_of_readLabel? {cs label rest : List Char}
    (h : readLabel? cs = some (label, rest)) : rest.length ≤ cs.length := by
  simp only [readLabel?] at h
  split at h
  · simp at h
  · simp only [Option.some.injEq, Prod.mk.injEq] at h
    obtain ⟨-, rfl⟩ := h
    exact length_dropWhile_le _ _

theorem length_le_of_readLineBreak? {cs rest : List Char} (h : readLineBreak? cs = some rest) :
    rest.length ≤ cs.length := by
  unfold readLineBreak? at h
  split at h
  · simp only [Option.some.injEq] at h
    simp only [h, List.length_cons]
    omega
  · simp only [Option.some.injEq] at h
    simp only [h, List.length_cons]
    omega
  · simp at h

theorem length_le_of_readBlanks? {cs rest : List Char} (h : readBlanks? cs = some rest) :
    rest.length ≤ cs.length := by
  cases cs with
  | nil => simp [readBlanks?] at h
  | cons c cs =>
    simp only [readBlanks?] at h
    split at h
    · simp only [Option.some.injEq] at h
      subst h
      exact Nat.le_succ_of_le (length_dropWhile_le _ _)
    · simp at h

/-- A block takes up at least one character. -/
theorem length_lt_of_coveringBlock? {cs rest : List Char} {block : List Char × List Char}
    (h : coveringBlock? cs = some (block, rest)) : rest.length < cs.length := by
  simp only [coveringBlock?, Option.bind_eq_some_iff] at h
  obtain ⟨c₁, h₁, ⟨l, c₂⟩, h₂, c₃, h₃, c₄, h₄, c₅, h₅, c₆, h₆, ⟨n, c₇⟩, h₇, h₈⟩ := h
  split at h₈
  · simp only [Option.some.injEq, Prod.mk.injEq] at h₈
    obtain ⟨-, rfl⟩ := h₈
    have g₁ := length_le_of_lead? h₁
    have g₂ := length_le_of_readLabel? h₂
    have g₃ := length_le_of_lead? h₃
    have g₄ := length_le_of_readLineBreak? h₄
    have g₅ := length_le_of_readBlanks? h₅
    have g₆ := length_le_of_lead? h₆
    have g₇ := length_lt_of_readTestName? h₇
    dsimp only at g₃
    omega
  · simp at h₈

/-- The blocks of a text, from left to right and without overlap, each as its label and the name
it covers. -/
def coveringBlocks (cs : List Char) : List (List Char × List Char) :=
  match _h : coveringBlock? cs with
  | some (block, rest) => block :: coveringBlocks rest
  | none =>
    match cs with
    | [] => []
    | _ :: rest => coveringBlocks rest
termination_by cs.length
decreasing_by
  · exact length_lt_of_coveringBlock? _h
  · simp

/-- The covering tests of a comparison source, in order. -/
def coveringTests (source : String) : List CoveringTest :=
  (coveringBlocks source.toList).map fun (label, name) =>
    ⟨String.ofList label, String.ofList name⟩

end SuiteAudit
