import SuiteAudit.Text.Basic
/-!
# Suites — test names

The two suites are matched by name. A test name is `test_` followed by one or
more name characters, and a name always takes in every name character that
follows, so reading one never stops inside a longer run of them.
-/

namespace SuiteAudit

open Text

/-- The characters that a test name goes on with: `a` to `z` and the underscore. -/
def isNameChar (c : Char) : Bool :=
  c == '_' || ('a' ≤ c && c ≤ 'z')

/-- Reads a test name off the front of a text; the second part is what follows it. -/
def readTestName? (cs : List Char) : Option (List Char × List Char) :=
  (lead? "test_".toList cs).bind fun rest =>
    if (rest.takeWhile isNameChar).isEmpty then none
    else some ("test_".toList ++ rest.takeWhile isNameChar, rest.dropWhile isNameChar)

/-- A test name, as a property of a text of its own. -/
def IsTestName (cs : List Char) : Prop :=
  ∃ tail : List Char, tail ≠ [] ∧ (∀ c ∈ tail, isNameChar c = true) ∧ cs = "test_".toList ++ tail

/-- What is read is a test name, it stands at the front, and the text after it does not go on
with a name character. -/
theorem readTestName?_eq_some {cs name rest : List Char}
    (h : readTestName? cs = some (name, rest)) :
    IsTestName name ∧ cs = name ++ rest ∧ rest.head?.all (fun c => !isNameChar c) = true := by
  simp only [readTestName?, Option.bind_eq_some_iff] at h
  obtain ⟨tail, hlead, h⟩ := h
  split at h
  · simp at h
  · rename_i hne
    simp only [Option.some.injEq, Prod.mk.injEq] at h
    obtain ⟨rfl, rfl⟩ := h
    refine ⟨⟨tail.takeWhile isNameChar, by simpa using hne, ?_, rfl⟩, ?_, ?_⟩
    · intro c hc
      exact List.all_eq_true.1 List.all_takeWhile c hc
    · rw [lead?_eq_some_iff.1 hlead, List.append_assoc, List.takeWhile_append_dropWhile]
    · cases hd : tail.dropWhile isNameChar with
      | nil => rfl
      | cons c r =>
        have := List.head?_dropWhile_not isNameChar tail
        simpa [hd] using this

/-- Reading a name shortens the text. -/
theorem length_lt_of_readTestName? {cs name rest : List Char}
    (h : readTestName? cs = some (name, rest)) : rest.length < cs.length := by
  obtain ⟨⟨tail, hne, -, rfl⟩, rfl, -⟩ := readTestName?_eq_some h
  have := List.length_pos_iff.2 hne
  simp only [List.length_append]
  omega

end SuiteAudit
