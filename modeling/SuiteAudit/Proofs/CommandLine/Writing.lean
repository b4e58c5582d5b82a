import SuiteAudit.CommandLine.Reading
import SuiteAudit.Proofs.Text.Greedy
import SuiteAudit.Proofs.Text.Utf8
import Mathlib.Data.List.Nodup
/-!
# Command line — settings that are written and read back

There are many ways to write the same settings: the options come in any order, a value is
attached to its option or stands apart from it, a flag may have a letter, and an option is
left out where its default or the environment says the same. `Settings.WrittenAs` has all
of them. There is one exactly if the paths of the settings are text (`exists_writtenAs_iff`),
and each is read back as the settings that were written (`ofArguments_writtenAs`).

The reader holds a value that stands apart back until the next option comes. `Reads` says
which assignments a reading stands for all the same, so that a step of the reader adds one
assignment to them and a whole command line adds them all.
-/

namespace SuiteAudit

/-! ## Writing -/

/-- **How an assignment is written.** A value that stands apart from its option does not begin with
a dash. -/
inductive Assignment.Spells : Assignment → List String → Prop
  | attached (option : ValueOption) (text : String) :
      Spells (.value option text) ["--" ++ option.name ++ "=" ++ text]
  | apart (option : ValueOption) {text : String} : text.toList.head? ≠ some '-' →
      Spells (.value option text) ["--" ++ option.name, text]
  | long (flag : Flag) : Spells (.flag flag) ["--" ++ flag.name]
  | letter {flag : Flag} {c : Char} : flag.letter? = some c →
      Spells (.flag flag) [String.ofList ['-', c]]

/-- Assignments are written one after the other. -/
inductive Spelled : List Assignment → List String → Prop
  | nil : Spelled [] []
  | cons {assignment : Assignment} {assignments : List Assignment} {written rest : List String} :
      assignment.Spells written → Spelled assignments rest →
      Spelled (assignment :: assignments) (written ++ rest)

namespace Settings

/-- **A text is the value of an option** in some settings. Of a path it has the bytes. -/
def HasValue (settings : Settings) : ValueOption → String → Prop
  | .referenceDir, text => settings.referencePath = Path.ofText text
  | .comparisonDir, text => settings.comparisonPath = Path.ofText text
  | .ignoreFile, text => settings.ignorePath = some (Path.ofText text)
  | .referencePrefix, text => settings.referencePrefix = text
  | .comparisonInfix, text => settings.comparisonInfix = text
  | .color, text => settings.color.name = text

/-- Whether a flag is on in some settings. -/
def isOn (settings : Settings) : Flag → Bool
  | .sorted => settings.sorted
  | .summary => settings.summary
  | .strict => settings.strict
  | .verbose => settings.verbose
  | .help | .version => false

/-- **An option may be left out** where its default or the environment says the same. -/
def MayOmit (settings : Settings) (environment : Environment) : ValueOption → Prop
  | .referenceDir =>
    ∃ text, environment.referenceDir = some text ∧ settings.HasValue .referenceDir text
  | .comparisonDir =>
    ∃ text, environment.comparisonDir = some text ∧ settings.HasValue .comparisonDir text
  | .ignoreFile => settings.ignorePath = none
  | .referencePrefix => settings.referencePrefix = defaultReferencePrefix
  | .comparisonInfix => settings.comparisonInfix = defaultComparisonInfix
  | .color => settings.color = .auto

/-- **Settings are given by assignments**: every option is given at most once and with the value
that it has, it is left out only if it may be, and the flags are those that are on. -/
structure GivenBy (settings : Settings) (environment : Environment)
    (assignments : List Assignment) : Prop where
  once : (assignments.map Assignment.option).Nodup
  value : ∀ option text, .value option text ∈ assignments → settings.HasValue option text
  omitted : ∀ option, (∀ text, .value option text ∉ assignments) →
    settings.MayOmit environment option
  flag : ∀ flag, .flag flag ∈ assignments ↔ settings.isOn flag = true

/-- **A command line writes settings** when it writes assignments that give them. -/
def WrittenAs (settings : Settings) (environment : Environment) (arguments : List String) : Prop :=
  ∃ assignments, settings.GivenBy environment assignments ∧ Spelled assignments arguments

/-- Settings whose paths are not empty. -/
structure HasPaths (settings : Settings) : Prop where
  referencePath : settings.referencePath ≠ []
  comparisonPath : settings.comparisonPath ≠ []
  ignorePath : settings.ignorePath ≠ some []

end Settings

variable {settings : Settings} {environment : Environment} {reading : Reading}
variable {assignment : Assignment} {before assignments : List Assignment}
variable {written arguments : List String} {option : ValueOption} {text : String}

/-! ## The forms of arguments -/

theorem CommandOption.name_ne_nil (option : CommandOption) : option.name.toList ≠ [] := by
  cases option with
  | value option => cases option <;> decide
  | flag flag => cases flag <;> decide

/-- No character of a name is an equals sign. -/
theorem CommandOption.ne_equals_of_mem_name (option : CommandOption) :
    ∀ c ∈ option.name.toList, (c != '=') = true := by
  cases option with
  | value option => cases option <;> exact List.all_eq_true.1 rfl
  | flag flag => cases flag <;> exact List.all_eq_true.1 rfl

/-- What stands behind two dashes is a name up to the first equals sign. -/
theorem ofText_dashes {cs : List Char} (htext : text.toList = '-' :: '-' :: cs) (hcs : cs ≠ []) :
    Argument.ofText text = .long (String.ofList (cs.takeWhile (· != '='))) (valuePart? cs) := by
  obtain ⟨c, cs, rfl⟩ := List.exists_cons_of_ne_nil hcs
  rw [Argument.ofText, htext]
  rfl

theorem ofText_attached (option : CommandOption) (text : String) :
    Argument.ofText ("--" ++ option.name ++ "=" ++ text) = .long option.name (some text) := by
  have hrun := option.ne_equals_of_mem_name
  have hstop : Text.StopsAt (· != '=') ('=' :: text.toList) := Text.stopsAt_cons.2 rfl
  have htext : ("--" ++ option.name ++ "=" ++ text).toList =
      '-' :: '-' :: (option.name.toList ++ '=' :: text.toList) := by
    simp
  rw [ofText_dashes htext (by simp), valuePart?, Text.takeWhile_run hrun hstop,
    Text.dropWhile_run hrun hstop]
  simp only [String.ofList_toList]

theorem ofText_long (option : CommandOption) :
    Argument.ofText ("--" ++ option.name) = .long option.name none := by
  have hrun := option.ne_equals_of_mem_name
  have htext : ("--" ++ option.name).toList = '-' :: '-' :: option.name.toList := by
    simp
  have hrest : option.name.toList.dropWhile (· != '=') = [] := List.dropWhile_eq_nil_iff.2 hrun
  rw [ofText_dashes htext option.name_ne_nil, valuePart?, hrest, List.takeWhile_eq_self_iff.2 hrun,
    String.ofList_toList]

theorem ofText_letter {c : Char} (hc : c ≠ '-') :
    Argument.ofText (String.ofList ['-', c]) = .letters [c] := by
  rw [Argument.ofText, String.toList_ofList]
  simp [hc]

theorem ofText_plain (h : text.toList.head? ≠ some '-') : Argument.ofText text = .plain text := by
  rw [Argument.ofText]
  cases htext : text.toList with
  | nil => rfl
  | cons c cs =>
    have hc : c ≠ '-' := by simpa [htext] using h
    simp [hc]

/-! ## What a reading stands for -/

/-- **A reading stands for some assignments**: they are settled, or the last one is held back. -/
inductive Reads : List Assignment → Reading → Prop
  | settled (assignments : List Assignment) : Reads assignments ⟨assignments, none⟩
  | held (before : List Assignment) (option : ValueOption) (text : String) :
      Reads (before ++ [.value option text]) ⟨before, some ⟨option, some text⟩⟩

/-- **Assignments are accepted**: no option is given twice, every value is one of its option, and
help and version are not asked for. -/
structure Accepted (assignments : List Assignment) : Prop where
  once : (assignments.map Assignment.option).Nodup
  value : ∀ option text, .value option text ∈ assignments → option.check text = .ok ()
  flag : ∀ flag, .flag flag ∈ assignments → flag ≠ .help ∧ flag ≠ .version

theorem Accepted.left (h : Accepted (before ++ assignments)) : Accepted before where
  once := by
    have honce := h.once
    rw [List.map_append] at honce
    exact (List.nodup_append.1 honce).1
  value option text hmem := h.value option text (List.mem_append_left _ hmem)
  flag flag hmem := h.flag flag (List.mem_append_left _ hmem)

/-- The next assignment is of an option that is not settled. -/
theorem Accepted.has_eq_false (h : Accepted (before ++ [assignment])) :
    Reading.has ⟨before, none⟩ assignment.option = false := by
  have honce := h.once
  rw [List.map_append, List.nodup_append] at honce
  rw [Reading.has, Reading.options, List.contains_eq_mem, decide_eq_false_iff_not]
  intro hmem
  exact honce.2.2 _ hmem _ (by simp) rfl

theorem addValue_of_accepted (h : Accepted (before ++ [.value option text])) :
    Reading.addValue ⟨before, none⟩ option text =
      .ok ⟨before ++ [.value option text], none⟩ := by
  have hhas : Reading.has ⟨before, none⟩ (.value option) = false := h.has_eq_false
  rw [Reading.addValue, hhas, h.value option text (by simp)]
  rfl

/-- What is held back can be settled. -/
theorem Reads.settle (h : Reads assignments reading) (haccepted : Accepted assignments) :
    reading.settle = .ok ⟨assignments, none⟩ := by
  cases h with
  | settled => rfl
  | held before option text => exact addValue_of_accepted haccepted

theorem readFlag_of_accepted {flag : Flag} (h : Reads before reading)
    (haccepted : Accepted (before ++ [.flag flag])) (long : Bool) :
    reading.readFlag flag long = .ok ⟨before ++ [.flag flag], none⟩ := by
  obtain ⟨hhelp, hversion⟩ := haccepted.flag flag (by simp)
  have hhas : Reading.has ⟨before, none⟩ (.flag flag) = false := haccepted.has_eq_false
  rw [Reading.readFlag, h.settle haccepted.left]
  simp only [Except.mapError, bind, Except.bind, hhas]
  cases flag with
  | help => exact absurd rfl hhelp
  | version => exact absurd rfl hversion
  | sorted | summary | strict | verbose => rfl

/-- A flag is found by its letter, which is no dash. -/
theorem Flag.ofLetter?_of_letter {flag : Flag} {c : Char} (h : flag.letter? = some c) :
    Flag.ofLetter? c = some flag ∧ c ≠ '-' := by
  cases flag with
  | sorted | summary | strict => cases h
  | verbose | help | version => cases h; decide

theorem readLong_attached (h : Reads before reading)
    (haccepted : Accepted (before ++ [.value option text])) :
    reading.readLong option.name (some text) = .ok ⟨before ++ [.value option text], none⟩ := by
  have hname : CommandOption.ofName? option.name = some (.value option) :=
    CommandOption.ofName?_name (.value option)
  unfold Reading.readLong
  simp only [hname, h.settle haccepted.left, Except.mapError, bind, Except.bind,
    addValue_of_accepted haccepted]

theorem readLong_apart (h : Reads before reading) (haccepted : Accepted before) :
    reading.readLong option.name none = .ok ⟨before, some ⟨option, none⟩⟩ := by
  have hname : CommandOption.ofName? option.name = some (.value option) :=
    CommandOption.ofName?_name (.value option)
  unfold Reading.readLong
  simp only [hname, h.settle haccepted, Except.mapError, bind, Except.bind, pure, Except.pure]

theorem readLong_flag {flag : Flag} (h : Reads before reading)
    (haccepted : Accepted (before ++ [.flag flag])) :
    reading.readLong flag.name none = .ok ⟨before ++ [.flag flag], none⟩ := by
  have hname : CommandOption.ofName? flag.name = some (.flag flag) :=
    CommandOption.ofName?_name (.flag flag)
  unfold Reading.readLong
  simp only [hname, readFlag_of_accepted h haccepted]

theorem readLetters_flag {flag : Flag} {c : Char} (hflag : Flag.ofLetter? c = some flag)
    (h : Reads before reading) (haccepted : Accepted (before ++ [.flag flag])) :
    reading.readLetters [c] = .ok ⟨before ++ [.flag flag], none⟩ := by
  simp only [Reading.readLetters, hflag, readFlag_of_accepted h haccepted, bind, Except.bind]

theorem readAll_long {argument name : String} {value : Option String} {next : Reading}
    (hform : Argument.ofText argument = .long name value)
    (hread : reading.readLong name value = .ok next) (rest : List String) :
    reading.readAll (argument :: rest) = next.readAll rest := by
  rw [Reading.readAll.eq_def]
  simp only [hform, hread, bind, Except.bind]

theorem readAll_letters {argument : String} {letters : List Char} {next : Reading}
    (hform : Argument.ofText argument = .letters letters)
    (hread : reading.readLetters letters = .ok next) (rest : List String) :
    reading.readAll (argument :: rest) = next.readAll rest := by
  rw [Reading.readAll.eq_def]
  simp only [hform, hread, bind, Except.bind]

/-- The value that an option waits for is held back with it. -/
theorem readAll_plain (h : text.toList.head? ≠ some '-') (rest : List String) :
    Reading.readAll ⟨before, some ⟨option, none⟩⟩ (text :: rest) =
      Reading.readAll ⟨before, some ⟨option, some text⟩⟩ rest := by
  rw [Reading.readAll.eq_def]
  simp only [ofText_plain h, Reading.readPlain, bind, Except.bind]

/-- **A written assignment is read as one more.** -/
theorem readAll_of_spells (h : Reads before reading) (hspells : assignment.Spells written)
    (haccepted : Accepted (before ++ [assignment])) :
    ∃ next, Reads (before ++ [assignment]) next ∧
      ∀ rest, reading.readAll (written ++ rest) = next.readAll rest := by
  cases hspells with
  | attached option text =>
    exact ⟨_, .settled _,
      readAll_long (ofText_attached (.value option) text) (readLong_attached h haccepted)⟩
  | @apart option text hdash =>
    refine ⟨_, .held before option text, fun rest => ?_⟩
    have hname := readAll_long (ofText_long (.value option)) (readLong_apart h haccepted.left)
      (text :: rest)
    exact hname.trans (readAll_plain hdash rest)
  | long flag =>
    exact ⟨_, .settled _, readAll_long (ofText_long (.flag flag)) (readLong_flag h haccepted)⟩
  | letter hletter =>
    obtain ⟨hflag, hdash⟩ := Flag.ofLetter?_of_letter hletter
    exact ⟨_, .settled _,
      readAll_letters (ofText_letter hdash) (readLetters_flag hflag h haccepted)⟩

/-- **Written assignments are all read**, in their order. -/
theorem readAll_of_spelled (hspelled : Spelled assignments arguments) (h : Reads before reading)
    (haccepted : Accepted (before ++ assignments)) :
    reading.readAll arguments = .ok ⟨before ++ assignments, none⟩ := by
  induction hspelled generalizing before reading with
  | nil =>
    rw [List.append_nil] at haccepted ⊢
    rw [Reading.readAll, h.settle haccepted]
    rfl
  | @cons assignment assignments written rest hspells _ ih =>
    have hcons : before ++ assignment :: assignments = before ++ [assignment] ++ assignments := by
      simp
    rw [hcons] at haccepted ⊢
    obtain ⟨next, hnext, hread⟩ := readAll_of_spells h hspells haccepted.left
    rw [hread]
    exact ih hnext haccepted

/-! ## The settings of assignments -/

namespace Settings

/-- An option has one value. -/
theorem HasValue.unique {other : String} (h : settings.HasValue option text)
    (h' : settings.HasValue option other) : text = other := by
  cases option with
  | referenceDir | comparisonDir => exact Text.utf8Bytes_inj.1 (h.symm.trans h')
  | ignoreFile => exact Text.utf8Bytes_inj.1 (Option.some.inj (h.symm.trans h'))
  | referencePrefix | comparisonInfix | color => exact h.symm.trans h'

/-- The value that an option has is one of its values. -/
theorem HasPaths.check (hpaths : settings.HasPaths) (h : settings.HasValue option text) :
    option.check text = .ok () := by
  have hempty : Path.ofText "" = [] := Text.utf8Bytes_empty
  cases option with
  | referenceDir =>
    have hne : text ≠ "" := by
      rintro rfl
      exact hpaths.referencePath (h.trans hempty)
    simp [ValueOption.check, hne]
  | comparisonDir =>
    have hne : text ≠ "" := by
      rintro rfl
      exact hpaths.comparisonPath (h.trans hempty)
    simp [ValueOption.check, hne]
  | ignoreFile =>
    have hne : text ≠ "" := by
      rintro rfl
      exact hpaths.ignorePath (h.trans (congrArg some hempty))
    simp [ValueOption.check, hne]
  | referencePrefix | comparisonInfix => rfl
  | color =>
    cases h
    have hne : settings.color.name ≠ "" := by cases settings.color <;> decide
    simp [ValueOption.check, hne]

/-- Assignments that give settings are accepted. -/
theorem GivenBy.accepted (h : settings.GivenBy environment assignments)
    (hpaths : settings.HasPaths) : Accepted assignments where
  once := h.once
  value option text hmem := hpaths.check (h.value option text hmem)
  flag flag hmem := by
    have hon := (h.flag flag).1 hmem
    constructor <;> rintro rfl <;> cases hon

theorem GivenBy.value?_of_mem (h : settings.GivenBy environment assignments)
    (hmem : .value option text ∈ assignments) :
    Reading.value? ⟨assignments, none⟩ option = some text := by
  cases hvalue : Reading.value? ⟨assignments, none⟩ option with
  | none =>
    have hnone := List.findSome?_eq_none_iff.1 hvalue _ hmem
    simp at hnone
  | some found =>
    obtain ⟨assignment, hassignment, hfound⟩ := List.exists_of_findSome?_eq_some hvalue
    cases assignment with
    | flag flag => cases hfound
    | value other otherText =>
      obtain ⟨rfl, rfl⟩ : other = option ∧ otherText = found := by simpa using hfound
      rw [(h.value _ _ hassignment).unique (h.value _ _ hmem)]

/-- What assignments say of an option: its value, or nothing where it may be left out. -/
theorem GivenBy.value? (h : settings.GivenBy environment assignments) (option : ValueOption) :
    (∃ text, Reading.value? ⟨assignments, none⟩ option = some text ∧
        settings.HasValue option text) ∨
      Reading.value? ⟨assignments, none⟩ option = none ∧ settings.MayOmit environment option := by
  by_cases hgiven : ∃ text, .value option text ∈ assignments
  · obtain ⟨text, hmem⟩ := hgiven
    exact .inl ⟨text, h.value?_of_mem hmem, h.value _ _ hmem⟩
  · have hnot : ∀ text, .value option text ∉ assignments := not_exists.1 hgiven
    refine .inr ⟨List.findSome?_eq_none_iff.2 fun assignment hmem => ?_, h.omitted option hnot⟩
    cases assignment with
    | flag flag => rfl
    | value other text => exact if_neg fun heq : other = option => hnot text (heq ▸ hmem)

/-- What is read off the value that assignments give to an option: what its value yields, which has
to be the same as nothing yields where it may be left out. -/
theorem GivenBy.read_value? {β : Type} (h : settings.GivenBy environment assignments)
    (read : Option String → β) {value : β}
    (hgiven : ∀ text, settings.HasValue option text → read (some text) = value)
    (homitted : settings.MayOmit environment option → read none = value) :
    read (Reading.value? ⟨assignments, none⟩ option) = value := by
  obtain ⟨text, hvalue, htext⟩ | ⟨hvalue, homit⟩ := h.value? option
  · rw [hvalue]
    exact hgiven text htext
  · rw [hvalue]
    exact homitted homit

theorem GivenBy.has_flag (h : settings.GivenBy environment assignments) (flag : Flag) :
    Reading.has ⟨assignments, none⟩ (.flag flag) = settings.isOn flag := by
  have hmem : CommandOption.flag flag ∈ assignments.map Assignment.option ↔
      .flag flag ∈ assignments := by
    rw [List.mem_map]
    refine ⟨fun ⟨assignment, hassignment, hoption⟩ => ?_, fun hmem => ⟨_, hmem, rfl⟩⟩
    cases assignment with
    | value other text => cases hoption
    | flag other => cases hoption; exact hassignment
  rw [Bool.eq_iff_iff, ← h.flag flag, ← hmem]
  exact List.contains_iff_mem

/-- An option is settled where an assignment gives it a value. -/
theorem has_value_iff :
    Reading.has ⟨assignments, none⟩ (.value option) = true ↔
      ∃ text, .value option text ∈ assignments := by
  rw [Reading.has, Reading.options, List.contains_iff_mem, List.mem_map]
  constructor
  · rintro ⟨assignment, hmem, hoption⟩
    cases assignment with
    | value other text => cases hoption; exact ⟨text, hmem⟩
    | flag flag => cases hoption
  · rintro ⟨text, hmem⟩
    exact ⟨_, hmem, rfl⟩

/-- A value that settings have can be given where its option is not. -/
theorem GivenBy.concat (h : settings.GivenBy environment assignments)
    (htext : settings.HasValue option text)
    (hnot : ¬ ∃ text, .value option text ∈ assignments) :
    settings.GivenBy environment (assignments ++ [.value option text]) where
  once := by
    have hnew : .value option ∉ assignments.map Assignment.option := fun hmem =>
      hnot (has_value_iff.1 (List.contains_iff_mem.2 hmem))
    rw [List.map_append, List.nodup_append]
    refine ⟨h.once, by simp, ?_⟩
    rintro given hmem _ hlast rfl
    have hgiven : given = .value option := List.mem_singleton.1 hlast
    exact hnew (hgiven ▸ hmem)
  value other otherText hmem := by
    obtain hmem | hmem := List.mem_append.1 hmem
    · exact h.value other otherText hmem
    · cases List.mem_singleton.1 hmem
      exact htext
  omitted other hother :=
    h.omitted other fun otherText hmem => hother otherText (List.mem_append_left _ hmem)
  flag flag := by simpa using h.flag flag

/-- **The environment only adds a value that settings have**, and none where the option is
given. -/
theorem GivenBy.fill (h : settings.GivenBy environment assignments) (hpaths : settings.HasPaths)
    (option : ValueOption) {value : Option String}
    (hvalue : (¬ ∃ text, .value option text ∈ assignments) →
      ∃ text, value = some text ∧ settings.HasValue option text) :
    ∃ filled, Reading.fill ⟨assignments, none⟩ option value = .ok ⟨filled, none⟩ ∧
      settings.GivenBy environment filled ∧ assignments ⊆ filled ∧
      ∃ text, .value option text ∈ filled := by
  by_cases hgiven : ∃ text, .value option text ∈ assignments
  · have hhas := has_value_iff.2 hgiven
    refine ⟨assignments, ?_, h, List.Subset.refl _, hgiven⟩
    cases value with
    | none => rfl
    | some value => exact if_pos hhas
  · have hhas : ¬ Reading.has ⟨assignments, none⟩ (.value option) = true := fun hhas =>
      hgiven (has_value_iff.1 hhas)
    obtain ⟨text, rfl, htext⟩ := hvalue hgiven
    have hconcat := h.concat htext hgiven
    refine ⟨_, ?_, hconcat, List.subset_append_left _ _, text, by simp⟩
    exact (if_neg hhas).trans (addValue_of_accepted (hconcat.accepted hpaths))

/-- Assignments that give settings stand for them once both directories are among them. -/
theorem GivenBy.settings_eq (h : settings.GivenBy environment assignments)
    {reference comparison : String} (hreference : .value .referenceDir reference ∈ assignments)
    (hcomparison : .value .comparisonDir comparison ∈ assignments) :
    Reading.settings ⟨assignments, none⟩ = .ok settings := by
  have hreferencePath : settings.referencePath = Path.ofText reference := h.value _ _ hreference
  have hcomparisonPath : settings.comparisonPath = Path.ofText comparison :=
    h.value _ _ hcomparison
  have hignore : (Reading.value? ⟨assignments, none⟩ .ignoreFile).map Path.ofText =
      settings.ignorePath :=
    h.read_value? (·.map Path.ofText) (fun _ htext => htext.symm) Eq.symm
  have hprefix : (Reading.value? ⟨assignments, none⟩ .referencePrefix).getD
      defaultReferencePrefix = settings.referencePrefix :=
    h.read_value? (·.getD defaultReferencePrefix) (fun _ htext => htext.symm) Eq.symm
  have hinfix : (Reading.value? ⟨assignments, none⟩ .comparisonInfix).getD
      defaultComparisonInfix = settings.comparisonInfix :=
    h.read_value? (·.getD defaultComparisonInfix) (fun _ htext => htext.symm) Eq.symm
  have hcolor : ((Reading.value? ⟨assignments, none⟩ .color).bind ColorMode.ofName?).getD .auto =
      settings.color := by
    refine h.read_value? (fun value => (value.bind ColorMode.ofName?).getD .auto) ?_ Eq.symm
    rintro _ rfl
    rw [Option.bind_some, ColorMode.ofName?_name, Option.getD_some]
  rw [Reading.settings, h.value?_of_mem hreference, h.value?_of_mem hcomparison]
  simp only [← hreferencePath, ← hcomparisonPath, hignore, hprefix, hinfix, hcolor, h.has_flag,
    isOn]

/-! ## Settings in full -/

end Settings

/-- A path is text if it has the bytes of one. -/
def Path.IsText (path : Path) : Prop :=
  ∃ text, path = ofText text

/-- What is shown of such a path is that text. -/
theorem Path.IsText.ofText_shown {path : Path} (h : path.IsText) : ofText path.shown = path := by
  obtain ⟨text, rfl⟩ := h
  rw [shown_ofText]

namespace Settings

/-- Settings whose paths are text. -/
structure HasTextPaths (settings : Settings) : Prop where
  referencePath : settings.referencePath.IsText
  comparisonPath : settings.comparisonPath.IsText
  ignorePath : ∀ path, settings.ignorePath = some path → path.IsText

/-- The value of an option as it is shown. -/
def text? (settings : Settings) : ValueOption → Option String
  | .referenceDir => some settings.referenceDir
  | .comparisonDir => some settings.comparisonDir
  | .ignoreFile => settings.ignoreFile
  | .referencePrefix => some settings.referencePrefix
  | .comparisonInfix => some settings.comparisonInfix
  | .color => some settings.color.name

/-- What is shown of an option is its value. -/
theorem HasTextPaths.hasValue (hpaths : settings.HasTextPaths)
    (h : settings.text? option = some text) : settings.HasValue option text := by
  cases option with
  | referenceDir => cases h; exact hpaths.referencePath.ofText_shown.symm
  | comparisonDir => cases h; exact hpaths.comparisonPath.ofText_shown.symm
  | ignoreFile =>
    obtain ⟨path, hpath, rfl⟩ := Option.map_eq_some_iff.1 h
    exact hpath.trans (congrArg some (hpaths.ignorePath path hpath).ofText_shown.symm)
  | referencePrefix | comparisonInfix | color => exact Option.some.inj h

/-- What can be given of an option: the value that it has, or the flag if it is on. -/
def assignment? (settings : Settings) : CommandOption → Option Assignment
  | .value option => (settings.text? option).map (.value option)
  | .flag flag => if settings.isOn flag then some (.flag flag) else none

/-- All that can be given of some settings. -/
def inFull (settings : Settings) : List Assignment :=
  CommandOption.all.filterMap settings.assignment?

theorem option_of_assignment? {option : CommandOption}
    (h : settings.assignment? option = some assignment) : assignment.option = option := by
  cases option with
  | value option =>
    obtain ⟨text, -, rfl⟩ := Option.map_eq_some_iff.1 h
    rfl
  | flag flag =>
    obtain ⟨-, rfl⟩ : settings.isOn flag = true ∧ .flag flag = assignment := by
      simpa [assignment?] using h
    rfl

theorem mem_inFull_iff :
    assignment ∈ settings.inFull ↔ settings.assignment? assignment.option = some assignment := by
  have hall (option : CommandOption) : option ∈ CommandOption.all := by
    cases option with
    | value option => cases option <;> decide
    | flag flag => cases flag <;> decide
  rw [inFull, List.mem_filterMap]
  constructor
  · rintro ⟨option, -, hoption⟩
    rwa [option_of_assignment? hoption]
  · exact fun h => ⟨_, hall _, h⟩

theorem HasTextPaths.givenBy_inFull (hpaths : settings.HasTextPaths)
    (environment : Environment) : settings.GivenBy environment settings.inFull where
  once := by
    rw [inFull, List.map_filterMap]
    refine List.Nodup.filterMap (fun option other given hoption hother => ?_) (by decide)
    obtain ⟨assignment, hassignment, rfl⟩ := Option.map_eq_some_iff.1 hoption
    obtain ⟨assignment', hassignment', heq⟩ := Option.map_eq_some_iff.1 hother
    rw [← option_of_assignment? hassignment, ← option_of_assignment? hassignment', heq]
  value option text hmem := by
    rw [mem_inFull_iff] at hmem
    exact hpaths.hasValue (by simpa [assignment?, Assignment.option] using hmem)
  omitted option hnot := by
    -- only an ignore file may have no value
    have hnone : settings.text? option = none := Option.eq_none_iff_forall_ne_some.2
      fun text htext => hnot text (by simp [mem_inFull_iff, assignment?, Assignment.option, htext])
    cases option with
    | ignoreFile => exact Option.map_eq_none_iff.1 hnone
    | referenceDir | comparisonDir | referencePrefix | comparisonInfix | color => cases hnone
  flag flag := by simp [mem_inFull_iff, assignment?, Assignment.option]

/-- Every assignment can be written. -/
theorem exists_spelled (assignments : List Assignment) :
    ∃ arguments, Spelled assignments arguments := by
  induction assignments with
  | nil => exact ⟨_, .nil⟩
  | cons assignment assignments ih =>
    obtain ⟨arguments, hspelled⟩ := ih
    cases assignment with
    | value option text => exact ⟨_, .cons (.attached option text) hspelled⟩
    | flag flag => exact ⟨_, .cons (.long flag) hspelled⟩

/-- **Settings can be written exactly if their paths are text**, whatever the environment
holds. -/
theorem exists_writtenAs_iff (settings : Settings) (environment : Environment) :
    (∃ arguments, settings.WrittenAs environment arguments) ↔ settings.HasTextPaths := by
  constructor
  · rintro ⟨arguments, assignments, hgiven, -⟩
    constructor
    · obtain ⟨text, -, htext⟩ | ⟨-, text, -, htext⟩ := hgiven.value? .referenceDir <;>
        exact ⟨text, htext⟩
    · obtain ⟨text, -, htext⟩ | ⟨-, text, -, htext⟩ := hgiven.value? .comparisonDir <;>
        exact ⟨text, htext⟩
    · intro path hpath
      obtain ⟨text, -, htext⟩ | ⟨-, homit⟩ := hgiven.value? .ignoreFile
      · exact ⟨text, Option.some.inj (hpath.symm.trans htext)⟩
      · cases hpath.symm.trans homit
  · intro hpaths
    obtain ⟨arguments, hspelled⟩ := exists_spelled settings.inFull
    exact ⟨arguments, _, hpaths.givenBy_inFull environment, hspelled⟩

/-! ## Reading back -/

/-- **Settings that are written are read back**, in whatever order and form they are written.
What the environment holds for a directory does not matter where the directory is given. -/
theorem ofArguments_writtenAs (settings : Settings) (environment : Environment)
    (arguments : List String) (hpaths : settings.HasPaths)
    (h : settings.WrittenAs environment arguments) :
    Settings.ofArguments environment arguments = .ok settings := by
  obtain ⟨assignments, hgiven, hspelled⟩ := h
  have hread : Reading.start.readAll arguments = .ok ⟨assignments, none⟩ :=
    readAll_of_spelled hspelled (.settled []) (hgiven.accepted hpaths)
  -- Each directory is among the assignments once the environment has been asked for it.
  obtain ⟨filled, hfill, hfilled, -, reference, hreference⟩ :=
    hgiven.fill hpaths .referenceDir fun hnot =>
      hgiven.omitted .referenceDir (not_exists.1 hnot)
  obtain ⟨complete, hcomplete, hgives, hsubset, comparison, hcomparison⟩ :=
    hfilled.fill hpaths .comparisonDir fun hnot =>
      hfilled.omitted .comparisonDir (not_exists.1 hnot)
  have hsettings := hgives.settings_eq (hsubset hreference) hcomparison
  simp only [ofArguments, hread, hfill, hcomplete, hsettings, bind, Except.bind, Except.mapError]

/-- Values that look like options, an empty value, a value of the environment and one that is
overridden: nothing of it is mistaken. -/
theorem ofArguments_likeOptions :
    let settings : Settings := {
      referencePath := Path.ofText "--strict", comparisonPath := Path.ofText "a b=c"
      ignorePath := none
      referencePrefix := "", comparisonInfix := "--color=always", sorted := false
      color := .auto, summary := true, strict := false, verbose := true }
    let arguments := ["--reference-prefix", "", "-v", "--comparison-infix=--color=always",
      "--summary", "--reference-dir=--strict"]
    settings.HasPaths ∧ settings.WrittenAs ⟨some "", some "a b=c"⟩ arguments ∧
      Settings.ofArguments ⟨some "", some "a b=c"⟩ arguments = .ok settings := by
  intro settings arguments
  have hpaths : settings.HasPaths := ⟨by decide +kernel, by decide +kernel, by decide⟩
  have hgiven : settings.GivenBy ⟨some "", some "a b=c"⟩
      [.value .referencePrefix "", .flag .verbose, .value .comparisonInfix "--color=always",
        .flag .summary, .value .referenceDir "--strict"] :=
    { once := by decide
      value := fun option text hmem => by
        simp only [List.mem_cons, Assignment.value.injEq, reduceCtorEq, List.not_mem_nil,
          false_or, or_false] at hmem
        obtain ⟨rfl, rfl⟩ | ⟨rfl, rfl⟩ | ⟨rfl, rfl⟩ := hmem <;> rfl
      omitted := fun option hnot => by
        cases option with
        | referenceDir => exact absurd (by decide) (hnot "--strict")
        | referencePrefix => exact absurd (by decide) (hnot "")
        | comparisonInfix => exact absurd (by decide) (hnot "--color=always")
        | comparisonDir => exact ⟨_, rfl, rfl⟩
        | ignoreFile | color => rfl
      flag := fun flag => by cases flag <;> decide }
  have hspelled : Spelled _ arguments :=
    .cons (.apart .referencePrefix (by decide)) <|
      .cons (@Assignment.Spells.letter .verbose 'v' rfl) <|
      .cons (.attached .comparisonInfix "--color=always") <| .cons (.long .summary) <|
      .cons (.attached .referenceDir "--strict") .nil
  exact ⟨hpaths, ⟨_, hgiven, hspelled⟩, ofArguments_writtenAs _ _ _ hpaths ⟨_, hgiven, hspelled⟩⟩

end Settings

end SuiteAudit
