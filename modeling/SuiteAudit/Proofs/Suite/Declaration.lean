import SuiteAudit.Proofs.Suite.TestName
import SuiteAudit.Suite.Reference
/-!
# Suites — the form of a declaration

`DeclarationLine` spells out what a line that declares a test looks like, and
`LinesDeclare` lists the names of many lines, line by line. The reader walks over a
whole source instead and resumes in the middle of a line; that it yields the names
of the lines rests on one fact, that what it reads for a declaration never reaches
past the end of a line (`declares_append_iff`).
-/

namespace SuiteAudit

open Text

variable {cs line name rest : List Char}

/-- What may stand in front of the word `def`: nothing, or the word `async` and a gap. -/
inductive AsyncPart : List Char → Prop
  | none : AsyncPart []
  | async {sep : List Char} : IsRun isIndent sep → AsyncPart ("async".toList ++ sep)

/-- **The form of a declaration** at the front of a text: an indent, perhaps `async` and a gap,
`def` and a gap, the name, an opening parenthesis, and then anything. -/
def Declares (cs name rest : List Char) : Prop :=
  IsTestName name ∧ ∃ indent part gap, (∀ c ∈ indent, isIndent c = true) ∧ AsyncPart part ∧
    IsRun isIndent gap ∧ cs = indent ++ part ++ "def".toList ++ gap ++ name ++ "(".toList ++ rest

/-- **A line that declares a name.** -/
def DeclarationLine (line name : List Char) : Prop :=
  ∃ rest, Declares line name rest

/-- **The names that lines declare**, line by line: one for each line that has the form, none for
the others. -/
inductive LinesDeclare : List (List Char) → List (List Char) → Prop
  /-- There is no line left. -/
  | done : LinesDeclare [] []
  /-- The first line declares a name. -/
  | declares {line name : List Char} {lines names : List (List Char)} :
      DeclarationLine line name → LinesDeclare lines names →
      LinesDeclare (line :: lines) (name :: names)
  /-- The first line declares nothing. -/
  | passes {line : List Char} {lines names : List (List Char)} :
      (∀ name, ¬ DeclarationLine line name) → LinesDeclare lines names →
      LinesDeclare (line :: lines) names

/-! ## The reader of a declaration -/

theorem readGap?_eq_some_iff :
    readGap? cs = some rest ↔
      ∃ gap, IsRun isIndent gap ∧ StopsAt isIndent rest ∧ cs = gap ++ rest :=
  eq_some_iff_run rfl fun _ _ => rfl

/-- A name does not begin with a space or a tab. -/
theorem IsTestName.stopsAt_indent (h : IsTestName name) : StopsAt isIndent (name ++ rest) := by
  obtain ⟨tail, -, -, rfl⟩ := h
  exact stopsAt_cons.2 (by decide)

theorem exists_asyncPart_of_skipAsync? (h : skipAsync? cs = some rest) :
    ∃ part, AsyncPart part ∧ cs = part ++ rest := by
  simp only [skipAsync?] at h
  split at h
  · rename_i tail hlead
    obtain ⟨sep, hsep, -, rfl⟩ := readGap?_eq_some_iff.1 h
    exact ⟨_, .async hsep, by rw [lead?_eq_some_iff.1 hlead, List.append_assoc]⟩
  · exact ⟨[], .none, by rw [Option.some.inj h, List.nil_append]⟩

theorem skipAsync?_append_def {part : List Char} (h : AsyncPart part) :
    skipAsync? (part ++ ("def".toList ++ rest)) = some ("def".toList ++ rest) := by
  cases h with
  | none => rfl
  | async hsep =>
    have hstop : StopsAt isIndent ("def".toList ++ rest) := stopsAt_cons.2 (by decide)
    have hread := readGap?_eq_some_iff.2 ⟨_, hsep, hstop, rfl⟩
    simp only [skipAsync?, List.append_assoc, lead?_eq_some_iff.2 rfl, hread]

/-- **A declaration is read exactly where its form fits.** -/
theorem declaration?_eq_some_iff :
    declaration? cs = some (name, rest) ↔ Declares cs name rest := by
  constructor
  · intro h
    simp only [declaration?, Option.bind_eq_some_iff, Option.map_eq_some_iff] at h
    obtain ⟨c₁, h₁, c₂, h₂, c₃, h₃, ⟨n, c₄⟩, h₄, c₅, h₅, h₆⟩ := h
    simp only [Prod.mk.injEq] at h₆
    obtain ⟨rfl, rfl⟩ := h₆
    dsimp only at h₅
    obtain ⟨part, hpart, hcs⟩ := exists_asyncPart_of_skipAsync? h₁
    obtain ⟨gap, hgap, -, rfl⟩ := readGap?_eq_some_iff.1 h₃
    obtain ⟨hname, -, rfl⟩ := readTestName?_eq_some_iff.1 h₄
    refine ⟨hname, cs.takeWhile isIndent, part, gap, fun c hc => List.mem_takeWhile_imp hc,
      hpart, hgap, ?_⟩
    rw [lead?_eq_some_iff.1 h₂, lead?_eq_some_iff.1 h₅] at hcs
    simp only [List.append_assoc, ← hcs, List.takeWhile_append_dropWhile]
  · -- every run of the form stops where the part behind it begins
    rintro ⟨hname, indent, part, gap, hindent, hpart, hgap, rfl⟩
    have hpartStop : StopsAt isIndent
        (part ++ ("def".toList ++ (gap ++ (name ++ ("(".toList ++ rest))))) := by
      cases hpart <;> exact stopsAt_cons.2 (by decide)
    have hnameStop : StopsAt isNameChar ("(".toList ++ rest) := stopsAt_cons.2 (by decide)
    simp only [declaration?, List.append_assoc, dropWhile_run hindent hpartStop,
      skipAsync?_append_def hpart, Option.bind_some, Option.bind_eq_some_iff,
      Option.map_eq_some_iff]
    exact ⟨_, lead?_eq_some_iff.2 rfl, _,
      readGap?_eq_some_iff.2 ⟨gap, hgap, hname.stopsAt_indent, rfl⟩, ⟨name, _⟩,
      readTestName?_eq_some_iff.2 ⟨hname, hnameStop, rfl⟩, rest, lead?_eq_some_iff.2 rfl, rfl⟩

/-- Nothing is read off a line exactly when it declares nothing. -/
theorem declaration?_eq_none_iff :
    declaration? line = none ↔ ∀ name, ¬ DeclarationLine line name := by
  rw [Option.eq_none_iff_forall_ne_some]
  constructor
  · rintro h name ⟨rest, hdecl⟩
    exact h _ (declaration?_eq_some_iff.2 hdecl)
  · rintro h ⟨name, rest⟩ hread
    exact h name ⟨rest, declaration?_eq_some_iff.1 hread⟩

/-- A line declares at most one name. -/
theorem DeclarationLine.unique {name' : List Char} (h : DeclarationLine line name)
    (h' : DeclarationLine line name') : name = name' := by
  obtain ⟨rest, h⟩ := h
  obtain ⟨rest', h'⟩ := h'
  have hread := declaration?_eq_some_iff.2 h
  rw [declaration?_eq_some_iff.2 h'] at hread
  exact (Prod.mk.inj (Option.some.inj hread)).1.symm

/-! ## Declarations and lines -/

/-- What may follow a line: nothing, or a line feed and more lines. -/
inductive AfterLine : List Char → Prop
  | nothing : AfterLine []
  | newline {more : List Char} : AfterLine ('\n' :: more)

/-- What a declaration takes up holds no line feed. -/
theorem newline_not_mem_declaration {indent part gap : List Char}
    (hindent : ∀ c ∈ indent, isIndent c = true) (hpart : AsyncPart part)
    (hgap : IsRun isIndent gap) (hname : IsTestName name) :
    '\n' ∉ indent ++ part ++ "def".toList ++ gap ++ name ++ "(".toList := by
  have hnl : isIndent '\n' = false := by decide
  have hwords : '\n' ∉ "def".toList ∧ '\n' ∉ "async".toList ∧ '\n' ∉ "(".toList := by decide
  have hpartNot : '\n' ∉ part := by
    cases hpart with
    | none => exact List.not_mem_nil
    | async hsep =>
      exact fun hmem => (List.mem_append.1 hmem).elim hwords.2.1 (not_mem_run hsep.2 hnl)
  have hnameNot : '\n' ∉ name := not_mem_run (isWord_of_mem_testName hname) (by decide)
  simp only [List.mem_append, not_or]
  exact ⟨⟨⟨⟨⟨not_mem_run hindent hnl, hpartNot⟩, hwords.1⟩, not_mem_run hgap.2 hnl⟩, hnameNot⟩,
    hwords.2.2⟩

/-- A part of a text without line feeds lies within the first line. -/
theorem exists_line_eq_append {xs ys tail : List Char} (htail : AfterLine tail)
    (hxs : '\n' ∉ xs) (h : line ++ tail = xs ++ ys) : ∃ zs, line = xs ++ zs ∧ ys = zs ++ tail := by
  cases htail with
  | nothing => exact ⟨ys, by rw [← h, List.append_nil], (List.append_nil ys).symm⟩
  | newline => exact exists_eq_append_of_not_mem hxs h

/-- **A declaration at the front of a text is one of its first line.** -/
theorem declares_append_iff {tail : List Char} (htail : AfterLine tail) :
    Declares (line ++ tail) name rest ↔ ∃ zs, Declares line name zs ∧ rest = zs ++ tail := by
  constructor
  · rintro ⟨hname, indent, part, gap, hindent, hpart, hgap, h⟩
    obtain ⟨zs, hline, hrest⟩ := exists_line_eq_append htail
      (newline_not_mem_declaration hindent hpart hgap hname) h
    exact ⟨zs, ⟨hname, indent, part, gap, hindent, hpart, hgap, hline⟩, hrest⟩
  · rintro ⟨zs, ⟨hname, indent, part, gap, hindent, hpart, hgap, rfl⟩, rfl⟩
    exact ⟨hname, indent, part, gap, hindent, hpart, hgap, by simp only [List.append_assoc]⟩

/-! ## The scan of a source -/

@[simp] theorem declarations_false_nil : declarations false [] = [] := by
  simp [declarations]

/-- Inside a line the scan passes over a character and looks whether a line starts behind it. -/
theorem declarations_false_cons (c : Char) (cs : List Char) :
    declarations false (c :: cs) = declarations (c == '\n') cs := by
  rw [declarations]
  simp

/-- Where a line starts with a declaration, its name is taken and the scan goes on inside it. -/
theorem declarations_true_of_some (h : declaration? cs = some (name, rest)) :
    declarations true cs = name :: declarations false rest := by
  rw [declarations]
  split
  · rename_i hread
    simp only [if_true, h, Option.some.injEq, Prod.mk.injEq] at hread
    rw [hread.1, hread.2]
  · rename_i hread
    simp [h] at hread

/-- Where it starts with something else, it makes no difference that a line starts. -/
theorem declarations_true_of_none (h : declaration? cs = none) :
    declarations true cs = declarations false cs := by
  rw [declarations]
  split
  · rename_i hread
    simp [h] at hread
  · cases cs with
    | nil => simp
    | cons c cs => rw [declarations_false_cons]

/-- Inside a line the scan passes over everything up to a line feed. -/
theorem declarations_false_append {xs : List Char} (hxs : '\n' ∉ xs) (tail : List Char) :
    declarations false (xs ++ tail) = declarations false tail := by
  induction xs with
  | nil => rfl
  | cons c xs ih =>
    simp only [List.mem_cons, not_or] at hxs
    have hc : (c == '\n') = false := by simpa using Ne.symm hxs.1
    rw [List.cons_append, declarations_false_cons, hc, ih hxs.2]

/-- The scan of a text whose first line declares a name. -/
theorem declarations_of_declares {tail : List Char} (hline : '\n' ∉ line) (htail : AfterLine tail)
    (h : DeclarationLine line name) :
    declarations true (line ++ tail) = name :: declarations false tail := by
  obtain ⟨zs, hdecl⟩ := h
  have hread := declaration?_eq_some_iff.2 ((declares_append_iff htail).2 ⟨zs, hdecl, rfl⟩)
  obtain ⟨-, indent, part, gap, -, -, -, rfl⟩ := hdecl
  have hzs : '\n' ∉ zs := fun hmem => hline (List.mem_append_right _ hmem)
  rw [declarations_true_of_some hread, declarations_false_append hzs]

/-- The scan of a text whose first line declares nothing. -/
theorem declarations_of_not_declares {tail : List Char} (hline : '\n' ∉ line)
    (htail : AfterLine tail) (h : ∀ name, ¬ DeclarationLine line name) :
    declarations true (line ++ tail) = declarations false tail := by
  have hread : declaration? (line ++ tail) = none := by
    refine declaration?_eq_none_iff.2 ?_
    rintro name ⟨rest, hdecl⟩
    obtain ⟨zs, hdecl, -⟩ := (declares_append_iff htail).1 hdecl
    exact h name ⟨zs, hdecl⟩
  rw [declarations_true_of_none hread, declarations_false_append hline]

/-- **One line of the scan**: its name if it declares one, and then the scan behind it. -/
theorem linesDeclare_cons {tail : List Char} {lines : List (List Char)} (hline : '\n' ∉ line)
    (htail : AfterLine tail) (h : LinesDeclare lines (declarations false tail)) :
    LinesDeclare (line :: lines) (declarations true (line ++ tail)) := by
  by_cases hdecl : ∃ name, DeclarationLine line name
  · obtain ⟨name, hdecl⟩ := hdecl
    rw [declarations_of_declares hline htail hdecl]
    exact .declares hdecl h
  · have hnone : ∀ name, ¬ DeclarationLine line name := fun name h => hdecl ⟨name, h⟩
    rw [declarations_of_not_declares hline htail hnone]
    exact .passes hnone h

/-- **The scan of a text yields the names of its lines.** The induction is on the length of the
text, one line at a time. -/
theorem linesDeclare_splitOn (cs : List Char) :
    LinesDeclare (cs.splitOn '\n') (declarations true cs) := by
  induction hn : cs.length using Nat.strong_induction_on generalizing cs with
  | _ n ih =>
    by_cases hmem : '\n' ∈ cs
    · -- the first line, a line feed and the lines behind it
      obtain ⟨line, more, rfl, hline⟩ := List.eq_append_cons_of_mem hmem
      rw [List.splitOn_append_cons_self_of_not_mem hline]
      refine linesDeclare_cons hline .newline ?_
      have hlen : more.length < n := by
        rw [← hn, List.length_append, List.length_cons]
        omega
      rw [declarations_false_cons]
      exact ih _ hlen more rfl
    · -- the last line
      rw [List.splitOn_eq_singleton hmem]
      have h : LinesDeclare [cs] (declarations true (cs ++ [])) :=
        linesDeclare_cons hmem .nothing (by simpa using .done)
      rwa [List.append_nil] at h

/-! ## The names of lines -/

namespace LinesDeclare

variable {lines lines' names names' : List (List Char)}

/-- Lines leave no choice of names. -/
theorem unique (h : LinesDeclare lines names) (h' : LinesDeclare lines names') :
    names = names' := by
  induction h generalizing names' with
  | done =>
    cases h'
    rfl
  | declares hline _ ih =>
    cases h' with
    | declares hline' hrest => rw [hline.unique hline', ih hrest]
    | passes hnone _ => exact absurd hline (hnone _)
  | passes hnone _ ih =>
    cases h' with
    | declares hline _ => exact absurd hline (hnone _)
    | passes _ hrest => exact ih hrest

/-- The names of lines and more lines are the names of both. -/
theorem append (h : LinesDeclare lines names) (h' : LinesDeclare lines' names') :
    LinesDeclare (lines ++ lines') (names ++ names') := by
  induction h with
  | done => exact h'
  | declares hline _ ih => exact .declares hline ih
  | passes hnone _ ih => exact .passes hnone ih

/-- What lines declare are test names. -/
theorem isTestName_of_mem (h : LinesDeclare lines names) (hname : name ∈ names) :
    IsTestName name := by
  induction h with
  | done => cases hname
  | declares hline _ ih =>
    rcases List.mem_cons.1 hname with rfl | hname
    · obtain ⟨_, hdecl, _⟩ := hline
      exact hdecl
    · exact ih hname
  | passes _ _ ih => exact ih hname

end LinesDeclare

/-- And so are the tests that a source declares. -/
theorem isTestName_of_mem_declaredTests {source test : String} (h : test ∈ declaredTests source) :
    IsTestName test.toList := by
  obtain ⟨name, hname, rfl⟩ := List.mem_map.1 h
  rw [String.toList_ofList]
  exact (linesDeclare_splitOn source.toList).isTestName_of_mem hname

/-- The names declared in a source are those of its lines. -/
theorem declaredTests_eq_iff (source : String) (names : List String) :
    declaredTests source = names ↔
      LinesDeclare (source.toList.splitOn '\n') (names.map String.toList) := by
  have hscan := linesDeclare_splitOn source.toList
  constructor
  · rintro rfl
    rw [declaredTests, List.map_map]
    simpa [Function.comp_def] using hscan
  · intro h
    rw [declaredTests, hscan.unique h, List.map_map]
    simp [Function.comp_def]

/-- **Declarations are found line by line.** The names declared in a source are those of its lines
in order, a line declares at most one, and a source that is put together at a line feed declares
what its two parts declare. -/
theorem declaredTests_linewise :
    (∀ (source : String) (names : List String), declaredTests source = names ↔
      LinesDeclare (source.toList.splitOn '\n') (names.map String.toList)) ∧
    (∀ line name name' : List Char,
      DeclarationLine line name → DeclarationLine line name' → name = name') ∧
    ∀ a b : String, declaredTests (a ++ "\n" ++ b) = declaredTests a ++ declaredTests b := by
  refine ⟨declaredTests_eq_iff, fun line name name' h h' => h.unique h', fun a b => ?_⟩
  have hlines : (a ++ "\n" ++ b).toList.splitOn '\n' =
      a.toList.splitOn '\n' ++ b.toList.splitOn '\n' := by
    have hsplit : (a ++ "\n" ++ b).toList = a.toList ++ '\n' :: b.toList := by simp
    rw [hsplit, List.splitOn_append_cons_self]
  rw [declaredTests_eq_iff, hlines, List.map_append]
  exact ((declaredTests_eq_iff a _).1 rfl).append ((declaredTests_eq_iff b _).1 rfl)

end SuiteAudit
