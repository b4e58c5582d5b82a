import SuiteAudit.Suite.Comparison
import Std.Data.HashMap
/-!
# Coverage — which comparison test covers a reference test

Several comparison tests may name the same reference test. The one that counts
is the first, in the order of the files and then in the order of the tests of a
file. `firstCover?` says this by searching; `CoverageIndex` answers the same
question from a table that is filled once, and `lookup?_ofFiles` says that the
two agree.
-/

namespace SuiteAudit

/-- Where a reference test is covered: a comparison file, and the label of the test in it. -/
structure Coverage where
  file : String
  label : String
deriving Repr, DecidableEq, Inhabited

/-- All the pairs of a test name and the place that covers it, in order. -/
def coveragePairs (files : List ComparisonFile) : List (String × Coverage) :=
  files.flatMap fun file => file.tests.map fun test => (test.covers, ⟨file.name, test.label⟩)

/-- The first place that covers a test, found by searching the files in order. -/
def firstCover? (files : List ComparisonFile) (test : String) : Option Coverage :=
  files.findSome? fun file =>
    (file.tests.find? fun t => t.covers == test).map fun t => ⟨file.name, t.label⟩

/-- A table from test names to the first place that covers them. -/
structure CoverageIndex where
  places : Std.HashMap String Coverage

namespace CoverageIndex

/-- The table of no files. -/
def empty : CoverageIndex :=
  ⟨∅⟩

/-- Adds a place to the table, unless the test has one already. -/
def add (index : CoverageIndex) (test : String) (place : Coverage) : CoverageIndex :=
  ⟨index.places.insertIfNew test place⟩

/-- The table of a list of files. -/
def ofFiles (files : List ComparisonFile) : CoverageIndex :=
  (coveragePairs files).foldl (fun index pair => index.add pair.1 pair.2) empty

/-- The place that the table holds for a test. -/
def lookup? (index : CoverageIndex) (test : String) : Option Coverage :=
  index.places[test]?

@[simp] theorem lookup?_empty (test : String) : empty.lookup? test = none := by
  simp [empty, lookup?]

/-- An entry that is there stays, and a new one is added. -/
theorem lookup?_add (index : CoverageIndex) (name : String) (place : Coverage) (test : String) :
    (index.add name place).lookup? test =
      (index.lookup? test).or (if name = test then some place else none) := by
  simp only [add, lookup?, Std.HashMap.getElem?_insertIfNew, beq_iff_eq]
  by_cases hname : name = test
  · subst hname
    by_cases hmem : name ∈ index.places
    · simp [hmem]
    · simp [hmem]
  · simp [hname]

/-- What a table holds after more pairs were added is what it held before or, failing that, the
first of the pairs. -/
theorem lookup?_foldl_add (index : CoverageIndex) (pairs : List (String × Coverage))
    (test : String) :
    (pairs.foldl (fun index pair => index.add pair.1 pair.2) index).lookup? test =
      (index.lookup? test).or ((pairs.find? fun pair => pair.1 == test).map (·.2)) := by
  induction pairs generalizing index with
  | nil => simp
  | cons pair pairs ih =>
    rw [List.foldl_cons, ih, lookup?_add, List.find?_cons]
    by_cases h : pair.1 = test
    · simp [h]
    · simp [h, beq_eq_false_iff_ne.2 h]

end CoverageIndex

/-- Searching file by file finds the first of all pairs. -/
theorem firstCover?_eq_find? (files : List ComparisonFile) (test : String) :
    firstCover? files test =
      ((coveragePairs files).find? fun pair => pair.1 == test).map (·.2) := by
  induction files with
  | nil => rfl
  | cons file files ih =>
    simp only [firstCover?, coveragePairs, List.flatMap_cons, List.find?_append,
      List.findSome?_cons] at ih ⊢
    simp only [List.find?_map, Function.comp_def]
    cases file.tests.find? fun t => t.covers == test <;> simp [ih]

/-- **The table holds what a search finds.** -/
theorem CoverageIndex.lookup?_ofFiles (files : List ComparisonFile) (test : String) :
    (ofFiles files).lookup? test = firstCover? files test := by
  rw [firstCover?_eq_find?, ofFiles, lookup?_foldl_add, lookup?_empty, Option.none_or]

end SuiteAudit
