import SuiteAudit.Proofs.Text.Greedy
import SuiteAudit.Suite.TestName
import SuiteAudit.Text.Word
/-!
# Suites — reading a test name

A name is read exactly where a test name stands that no further name character
follows, and it is made of word characters throughout.
-/

namespace SuiteAudit

open Text

variable {cs name rest : List Char}

theorem readTestName?_eq_some_iff :
    readTestName? cs = some (name, rest) ↔
      IsTestName name ∧ StopsAt isNameChar rest ∧ cs = name ++ rest := by
  constructor
  · intro h
    obtain ⟨hname, hcs, hrest⟩ := readTestName?_eq_some h
    refine ⟨hname, fun c hc => ?_, hcs⟩
    rw [Option.mem_def.1 hc] at hrest
    simpa using hrest
  · rintro ⟨⟨tail, hne, htail, rfl⟩, hrest, rfl⟩
    have hlead : lead? "test_".toList ("test_".toList ++ tail ++ rest) = some (tail ++ rest) :=
      lead?_eq_some_iff.2 (List.append_assoc ..)
    simp only [readTestName?, hlead, Option.bind_some]
    rw [takeWhile_run htail hrest, dropWhile_run htail hrest, if_neg (by simpa using hne)]

/-- Whether a text is a test name is told by reading one off it. -/
instance (name : List Char) : Decidable (IsTestName name) :=
  decidable_of_iff (readTestName? name = some (name, [])) (by simp [readTestName?_eq_some_iff])

/-- The characters of a name are word characters. -/
theorem isWord_of_isNameChar {c : Char} (h : isNameChar c = true) : isWord c = true := by
  simp only [isNameChar, Bool.or_eq_true, Bool.and_eq_true, beq_iff_eq, decide_eq_true_eq] at h
  rcases h with rfl | ⟨ha, hz⟩
  · rfl
  · have hlow : 97 ≤ c.toNat := ha
    have hhigh : c.toNat ≤ 122 := hz
    -- a letter of the name is a lower-case letter, and so a word character
    have hlower : c.isLower = true := Bool.and_eq_true_iff.2 ⟨decide_eq_true ha, decide_eq_true hz⟩
    have halpha : c.isAlpha = true := Bool.or_eq_true_iff.2 (Or.inr hlower)
    have halnum : c.isAlphanum = true := Bool.or_eq_true_iff.2 (Or.inl halpha)
    rw [isWord_of_lt (by omega), isAsciiWord, halnum, Bool.true_or]

/-- A test name is made of name characters throughout, its lead included. -/
theorem isNameChar_of_mem_testName (hname : IsTestName name) : ∀ c ∈ name, isNameChar c = true := by
  obtain ⟨tail, -, htail, rfl⟩ := hname
  have hlead : ∀ c ∈ "test_".toList, isNameChar c = true := List.all_eq_true.1 rfl
  intro c hc
  rcases List.mem_append.1 hc with hc | hc
  · exact hlead c hc
  · exact htail c hc

/-- Every character of a name is a word character. -/
theorem isWord_of_mem_testName (hname : IsTestName name) : ∀ c ∈ name, isWord c = true :=
  fun c hc => isWord_of_isNameChar (isNameChar_of_mem_testName hname c hc)

end SuiteAudit
