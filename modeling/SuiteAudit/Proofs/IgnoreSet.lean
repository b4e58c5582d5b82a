import SuiteAudit.Disk.Tree
import SuiteAudit.IgnoreFile
import SuiteAudit.Proofs.Report.Outline
import SuiteAudit.Proofs.Run.ExitCode
import SuiteAudit.Proofs.Suite.Entries
import SuiteAudit.Proofs.Suite.TestName
import SuiteAudit.Proofs.Yaml.WordList
import Mathlib.Data.List.Dedup
/-!
# Ignore set — names that are written to a file and loaded

A set is told by its members: two sets are the same exactly when they have the same ones, so the
order and the repetitions of a list leave no trace (`same_ofList_iff`, `size_ofList`). A name that
a suite can declare needs no quotes, so every list of such names can be written to an ignore file
and is loaded as the set of its names (`ofFile_written`).
-/

namespace SuiteAudit

open Text

variable {a b : IgnoreSet} {names others : List String}

/-! ## Members -/

namespace IgnoreSet

/-- **Two sets are the same when they have the same members.** -/
theorem same_iff : a.same b = true ↔ ∀ name, a.contains name = true ↔ b.contains name = true := by
  rw [same, beq_iff_eq, toList, toList, ← Std.TreeSet.equiv_iff_toList_eq]
  constructor
  · exact fun h name => h.mem_iff
  · exact fun h => .of_forall_mem_iff h

/-- The sets of two lists are the same when the lists have the same members. -/
theorem same_ofList_iff :
    (ofList names).same (ofList others) = true ↔ ∀ name, name ∈ names ↔ name ∈ others := by
  simp [same_iff]

/-- **The size of a set is the number of distinct names.** -/
theorem size_ofList (names : List String) : (ofList names).size = names.dedup.length := by
  have hsame : (ofList names).names.Equiv (ofList names.dedup).names :=
    .of_forall_mem_iff fun name => by simp [ofList, Std.TreeSet.mem_ofList]
  have hdistinct : names.dedup.Pairwise fun a b => ¬ compare a b = .eq :=
    (List.nodup_dedup names).imp fun hne heq => hne (Std.LawfulEqOrd.eq_of_compare heq)
  calc (ofList names).size
      = (ofList names.dedup).size := hsame.size_eq
    _ = names.dedup.length := Std.TreeSet.size_ofList hdistinct

end IgnoreSet

/-- The tests of a section that are reported as ignored. -/
def FileReport.ignoredTests (report : FileReport) : List String :=
  (report.tests.filter (·.outcome = .ignored)).map (·.test)

/-- **The tests that are reported as ignored are those of the set**, with their repetitions and in
their order. -/
theorem ignoredTests_evaluate (ignored : IgnoreSet) (reference : List ReferenceFile)
    (comparison : List ComparisonFile) :
    (evaluate ignored reference comparison).map FileReport.ignoredTests =
      reference.map fun file => file.tests.filter ignored.contains := by
  rw [evaluate, List.map_map]
  refine List.map_congr_left fun file _ => ?_
  simp only [Function.comp_apply, FileReport.ignoredTests, evaluateFile, testLines, List.filter_map,
    List.map_map]
  have htest : (fun line : TestLine => line.test) ∘ (fun test =>
      ⟨test, outcomeOf ignored (CoverageIndex.ofFiles comparison) test⟩) = id := rfl
  rw [htest, List.map_id]
  exact List.filter_congr fun test _ =>
    Bool.eq_iff_iff.2 (decide_eq_true_iff.trans outcomeOf_eq_ignored_iff)

/-! ## Names in an ignore file -/

/-- A name character is none of the others. -/
theorem ne_of_isNameChar {c d : Char} (hc : isNameChar c = true) (hd : isNameChar d = false) :
    c ≠ d := by
  rintro rfl
  rw [hc] at hd
  cases hd

/-- **A test name needs no quotes.** -/
theorem isPlainWord_of_isTestName {name : List Char} (hname : IsTestName name) :
    Yaml.IsPlainWord name where
  ne_nil := by
    obtain ⟨tail, -, -, rfl⟩ := hname
    simp
  chars c hc := by
    have hchar := isNameChar_of_mem_testName hname c hc
    simp (disch := decide) [Yaml.isPlainChar, Yaml.isSpacing, Yaml.isBreak, ne_of_isNameChar hchar]
  lead := by
    obtain ⟨tail, -, -, rfl⟩ := hname
    simp [Yaml.Scanner.isIndicator]

theorem isAllowed_of_isNameChar {c : Char} (h : isNameChar c = true) : Yaml.isAllowed c = true := by
  simp only [isNameChar, Bool.or_eq_true, Bool.and_eq_true, beq_iff_eq, decide_eq_true_eq] at h
  rcases h with rfl | ⟨ha, hz⟩
  · rfl
  · have hlow : ' ' ≤ c := Char.le_trans (by decide) ha
    have hhigh : c ≤ '~' := Char.le_trans hz (by decide)
    simp [Yaml.isAllowed, hlow, hhigh]

namespace IgnoreSet

/-- The text of an ignore file, with a line for each name. -/
def written (names : List String) : String :=
  String.join (names.map fun name => "- " ++ name ++ "\n")

theorem toList_written (names : List String) :
    (written names).toList = Yaml.listText (names.map String.toList) := by
  rw [written, String.toList_join, List.flatMap_map, Yaml.listText, List.flatMap_map]
  refine List.flatMap_congr fun name _ => ?_
  simp [Yaml.entryLine]

/-- **Names that are written are read back as their set.** -/
theorem ofText_written (hnames : ∀ name ∈ names, IsTestName name.toList) :
    ofText (written names) = .ok (ofList names) := by
  rw [ofText, toList_written]
  cases names with
  | nil => rfl
  | cons name names =>
    have hchars : ∀ chars ∈ (name :: names).map String.toList, IsTestName chars := by
      simpa using hnames
    have hread : Yaml.readTextList (Yaml.listText ((name :: names).map String.toList)) =
        .ok ((name :: names).map String.toList) :=
      Yaml.readTextList_listText (fun chars hmem => isPlainWord_of_isTestName (hchars chars hmem))
        fun chars hmem c hc =>
          isAllowed_of_isNameChar (isNameChar_of_mem_testName (hchars chars hmem) c hc)
    have hvisible : (Yaml.listText ((name :: names).map String.toList)).all isBlank = false := by
      rw [List.map_cons]
      rfl
    rw [hvisible, hread]
    simp [Except.map, Function.comp_def]

/-- **Names that a suite can declare are loaded from the file that they are written to.** Nothing
is lost and nothing is added: the set has the names as its members, counts each of them once and is
the set of any list with the same members, and the tests that it excuses are those of the list. -/
theorem ofFile_written (disk : DiskAccess Id) (path : Path) (names : List String)
    (hnames : ∀ name ∈ names, IsTestName name.toList)
    (htext : HoldsText disk path (written names)) :
    ∃ ignored, (ofFile disk path).run = .ok ignored ∧
      (∀ name, ignored.contains name = true ↔ name ∈ names) ∧
      ignored.size = names.dedup.length ∧
      (∀ others, ignored.same (ofList others) = true ↔ ∀ name, name ∈ names ↔ name ∈ others) ∧
      ∀ reference comparison, (evaluate ignored reference comparison).map FileReport.ignoredTests =
        reference.map fun file => file.tests.filter (· ∈ names) := by
  have hload : (ofFile disk path).run = .ok (ofList names) := by
    rw [ofFile_run, readText_eq_ok_iff.2 htext]
    simp only [ofText_written hnames]
  refine ⟨_, hload, fun name => by simp, size_ofList names, fun others => same_ofList_iff,
    fun reference comparison => ?_⟩
  rw [ignoredTests_evaluate]
  exact List.map_congr_left fun file _ => List.filter_congr fun test _ => by simp

/-! ### A name that is listed twice -/

/-- A disk with an ignore file. -/
def listedTwiceDisk : Disk where
  root := .directory [
    (Path.ofText "ignored.yaml", .file "- test_a\n- test__b\n- test_a\n".toUTF8)]
  current := []

/-- The name is in the set, and it counts once. -/
theorem ofFile_listedTwice :
    ∃ ignored, (ofFile listedTwiceDisk.access (Path.ofText "ignored.yaml")).run = .ok ignored ∧
      ignored.contains "test_a" = true ∧ ignored.contains "test_a_b" = false ∧ ignored.size = 2 ∧
      ignored.same (ofList ["test__b", "test_a"]) = true := by
  have hnames : ∀ name ∈ ["test_a", "test__b", "test_a"], IsTestName name.toList := by
    simp only [List.mem_cons, List.not_mem_nil, or_false]
    rintro name (rfl | rfl | rfl)
    · exact ⟨['a'], by decide, List.all_eq_true.1 rfl, rfl⟩
    · exact ⟨['_', 'b'], by decide, List.all_eq_true.1 rfl, rfl⟩
    · exact ⟨['a'], by decide, List.all_eq_true.1 rfl, rfl⟩
  have htext : HoldsText listedTwiceDisk.access (Path.ofText "ignored.yaml")
      (written ["test_a", "test__b", "test_a"]) := by
    rw [HoldsText]
    decide +kernel
  obtain ⟨ignored, hload, hcontains, hsize, hsame, -⟩ := ofFile_written _ _ _ hnames htext
  refine ⟨ignored, hload, (hcontains _).2 (by simp), ?_, hsize, (hsame _).2 fun name => ?_⟩
  · rw [Bool.eq_false_iff, ne_eq, hcontains]
    decide
  · simp only [List.mem_cons, List.not_mem_nil, or_false]
    constructor
    · rintro (rfl | rfl | rfl) <;> simp
    · rintro (rfl | rfl) <;> simp

end IgnoreSet

end SuiteAudit
