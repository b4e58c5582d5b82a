import SuiteAudit.Proofs.Suite.Block
import Mathlib.Data.List.Pairwise
/-!
# Suites — the scan for covering blocks

Blocks have places in a source, and the scan takes them from left to right: the
first that fits, then the first that fits at or behind the end of that one, until
none is left. `LeftToRight` says this of places and knows nothing of a reader;
`exists_leftToRight` says that `coveringBlocks` yields the blocks it takes.

A block that fits is passed over only where its own call is spelled with the last
four letters of the name before it, which is also the only way in which two
fitting blocks overlap (`runsInto_of_overlap`).
-/

namespace SuiteAudit

open Text

/-- A block at its place in a text: where it starts, where its name ends, and what it says. -/
structure PlacedBlock where
  start : Nat
  stop : Nat
  label : List Char
  name : List Char
deriving Repr, DecidableEq

namespace PlacedBlock

variable {cs : List Char} {a b : PlacedBlock}

/-- The covering test that a block stands for. -/
def toTest (block : PlacedBlock) : CoveringTest :=
  ⟨String.ofList block.label, String.ofList block.name⟩

/-- The form of a block fits a text at the place of the block. -/
def FitsIn (block : PlacedBlock) (cs : List Char) : Prop :=
  block.stop ≤ cs.length ∧
    BlockFits (cs.drop block.start) block.label block.name (cs.drop block.stop)

/-- A block runs into another one: the last four letters of its name are the `test` of the
other's call. -/
def RunsInto (a b : PlacedBlock) : Prop :=
  b.start + 4 = a.stop ∧ "test".toList <:+ a.name

/-- A fitting block has an extent. -/
theorem FitsIn.start_lt_stop (h : a.FitsIn cs) : a.start < a.stop := by
  have hlt := length_lt_of_coveringBlock? (coveringBlock?_eq_some_iff.2 h.2)
  simp only [List.length_drop] at hlt
  omega

/-- **At one place at most one block fits.** -/
theorem FitsIn.unique (ha : a.FitsIn cs) (hb : b.FitsIn cs) (h : a.start = b.start) : a = b := by
  obtain ⟨hastop, ha⟩ := ha
  obtain ⟨hbstop, hb⟩ := hb
  rw [h] at ha
  obtain ⟨hlabel, hname, hrest⟩ := ha.unique hb
  have hlen := congrArg List.length hrest
  simp only [List.length_drop] at hlen
  cases a
  cases b
  simp only [mk.injEq]
  exact ⟨h, by dsimp only at *; omega, hlabel, hname⟩

/-- **Two fitting blocks overlap only where one runs into the other.** -/
theorem runsInto_of_overlap (ha : a.FitsIn cs) (hb : b.FitsIn cs) (hstart : a.start < b.start)
    (hstop : b.start < a.stop) : RunsInto a b := by
  obtain ⟨hle, ha⟩ := ha
  obtain ⟨-, -, -, -, brk, gap, -, -, hcall⟩ := hb
  have hdrop : (cs.drop a.start).drop (b.start - a.start) = cs.drop b.start := by
    rw [List.drop_drop, Nat.add_sub_cancel' hstart.le]
  simp only [List.append_assoc] at hcall
  obtain ⟨hlen, hsuf⟩ := stop_of_call_inside ha (by omega)
    (by simp only [List.length_drop]; omega) (hdrop.trans hcall)
  simp only [List.length_drop] at hlen
  exact ⟨by omega, hsuf⟩

end PlacedBlock

/-! ## The scan -/

/-- **The scan from left to right**, from a place on: it takes the first block that fits there or
behind, goes on where the name of that block ends, and ends when no more blocks fit. -/
inductive LeftToRight (cs : List Char) : Nat → List PlacedBlock → Prop
  /-- No block is left. -/
  | done {i : Nat} : (∀ b : PlacedBlock, b.FitsIn cs → b.start < i) → LeftToRight cs i []
  /-- The first block is taken. -/
  | take {i : Nat} {a : PlacedBlock} {blocks : List PlacedBlock} :
      a.FitsIn cs → i ≤ a.start →
      (∀ b : PlacedBlock, b.FitsIn cs → i ≤ b.start → a.start ≤ b.start) →
      LeftToRight cs a.stop blocks → LeftToRight cs i (a :: blocks)

namespace LeftToRight

variable {cs : List Char} {i : Nat} {blocks blocks' : List PlacedBlock} {a b : PlacedBlock}

/-- The scan leaves no choice. -/
theorem unique (h : LeftToRight cs i blocks) (h' : LeftToRight cs i blocks') :
    blocks = blocks' := by
  induction h generalizing blocks' with
  | done hnone =>
      cases h' with
      | done _ => rfl
      | take hb hi _ _ =>
          have := hnone _ hb
          omega
  | @take i a blocks ha hi hfirst _ ih =>
      cases h' with
      | done hnone =>
          have := hnone a ha
          omega
      | @take _ b blocks' hb hi' hfirst' hrest =>
          have hstart : a.start = b.start :=
            Nat.le_antisymm (hfirst b hb hi') (hfirst' a ha hi)
          obtain rfl := ha.unique hb hstart
          rw [ih hrest]

/-- What the scan takes fits, and lies where it was looked for. -/
theorem fitsIn_of_mem (h : LeftToRight cs i blocks) (ha : a ∈ blocks) :
    a.FitsIn cs ∧ i ≤ a.start := by
  induction h with
  | done _ => cases ha
  | @take i b blocks hb hi _ _ ih =>
      rcases List.mem_cons.1 ha with rfl | ha
      · exact ⟨hb, hi⟩
      · have := hb.start_lt_stop
        exact ⟨(ih ha).1, by have := (ih ha).2; omega⟩

/-- The blocks of a scan follow each other and do not overlap. -/
theorem pairwise (h : LeftToRight cs i blocks) :
    blocks.Pairwise fun a b => a.stop ≤ b.start := by
  induction h with
  | done _ => exact List.Pairwise.nil
  | take _ _ _ hrest ih => exact List.Pairwise.cons (fun b hb => (hrest.fitsIn_of_mem hb).2) ih

/-- Where no block fits, the scan may as well begin one place further left. -/
theorem of_succ (h : LeftToRight cs (i + 1) blocks)
    (hnone : ∀ b : PlacedBlock, b.FitsIn cs → b.start ≠ i) : LeftToRight cs i blocks := by
  cases h with
  | done h => exact done fun b hb => by have := h b hb; have := hnone b hb; omega
  | take ha hi hfirst hrest =>
      refine take ha (by omega) (fun b hb hib => hfirst b hb ?_) hrest
      have := hnone b hb
      omega

end LeftToRight

/-! ## What the reader takes -/

/-- Where a block is read, it is taken and the reader goes on behind it. -/
theorem coveringBlocks_of_some {cs rest : List Char} {block : List Char × List Char}
    (h : coveringBlock? cs = some (block, rest)) :
    coveringBlocks cs = block :: coveringBlocks rest := by
  rw [coveringBlocks]
  split
  · rename_i hread
    rw [h, Option.some.injEq, Prod.mk.injEq] at hread
    rw [hread.1, hread.2]
  · rename_i hread
    rw [h] at hread
    cases hread

@[simp] theorem coveringBlocks_nil : coveringBlocks [] = [] := by
  rw [coveringBlocks]
  rfl

/-- A block opens with a `t`. -/
theorem coveringBlock?_cons_of_ne {c : Char} {cs : List Char} (h : c ≠ 't') :
    coveringBlock? (c :: cs) = none := by
  refine coveringBlock?_eq_none_iff.2 ?_
  rintro label name rest ⟨-, -, -, brk, gap, -, -, hform⟩
  exact h (List.cons.inj hform).1

/-- Where none is read, a character is passed over. -/
theorem coveringBlocks_cons_of_none {c : Char} {cs : List Char}
    (h : coveringBlock? (c :: cs) = none) : coveringBlocks (c :: cs) = coveringBlocks cs := by
  rw [coveringBlocks]
  split
  · rename_i hread
    rw [h] at hread
    cases hread
  · rfl

/-- So is every character that opens no call. -/
theorem coveringBlocks_cons_of_ne {c : Char} {cs : List Char} (h : c ≠ 't') :
    coveringBlocks (c :: cs) = coveringBlocks cs :=
  coveringBlocks_cons_of_none (coveringBlock?_cons_of_ne h)

/-- A text without a quote has no block. -/
theorem coveringBlocks_eq_nil {cs : List Char} (h : '\'' ∉ cs) : coveringBlocks cs = [] := by
  fun_induction coveringBlocks cs with
  | case1 cs block tail hread ih =>
    obtain ⟨-, -, -, brk, gap, -, -, rfl⟩ := coveringBlock?_eq_some_iff.1 hread
    simp at h
  | case2 => rfl
  | case3 c cs hread ih => exact ih fun hmem => h (List.mem_cons_of_mem c hmem)

/-- **The blocks read off a text are those of the scan**, from any place of the text on. The
induction is on the reader: it resumes behind a block or passes over one character. -/
theorem exists_leftToRight {cs rest : List Char} {i : Nat} (hrest : cs.drop i = rest) :
    ∃ blocks, LeftToRight cs i blocks ∧
      coveringBlocks rest = blocks.map fun block => (block.label, block.name) := by
  fun_induction coveringBlocks rest generalizing i with
  | case1 rest block tail hread ih =>
      subst hrest
      obtain ⟨label, name⟩ := block
      have hfits := coveringBlock?_eq_some_iff.1 hread
      have hsuf : tail <:+ cs := hfits.suffix.trans (List.drop_suffix i cs)
      have hdrop : cs.drop (cs.length - tail.length) = tail :=
        (List.suffix_iff_eq_drop.1 hsuf).symm
      obtain ⟨blocks, hscan, hblocks⟩ := ih hdrop
      refine ⟨⟨i, cs.length - tail.length, label, name⟩ :: blocks, ?_, by rw [hblocks]; rfl⟩
      exact .take ⟨Nat.sub_le _ _, by dsimp only; rwa [hdrop]⟩ le_rfl (fun b _ hib => hib) hscan
  | case2 =>
      -- the text is used up, and a block needs some of it
      refine ⟨[], .done fun b hb => ?_, rfl⟩
      have hlen := List.drop_eq_nil_iff.1 hrest
      have := hb.start_lt_stop
      have := hb.1
      omega
  | case3 c rest hread ih =>
      have hdrop : cs.drop (i + 1) = rest := by
        rw [← List.drop_drop, hrest, List.drop_one, List.tail_cons]
      obtain ⟨blocks, hscan, hblocks⟩ := ih hdrop
      refine ⟨blocks, hscan.of_succ fun b hb hbi => ?_, hblocks⟩
      have hfits := hb.2
      rw [hbi, hrest] at hfits
      exact coveringBlock?_eq_none_iff.1 hread _ _ _ hfits

/-- The label of a covering test is a run of label characters, and what it covers is a test name. -/
theorem isRun_label_of_mem_coveringTests {source : String} {t : CoveringTest}
    (h : t ∈ coveringTests source) :
    IsRun isLabelChar t.label.toList ∧ IsTestName t.covers.toList := by
  obtain ⟨blocks, hscan, hblocks⟩ := exists_leftToRight (List.drop_zero (l := source.toList))
  rw [coveringTests, hblocks, List.map_map] at h
  obtain ⟨block, hblock, rfl⟩ := List.mem_map.1 h
  obtain ⟨-, hlabel, hname, -⟩ := (hscan.fitsIn_of_mem hblock).1
  exact ⟨by simpa using hlabel, by simpa using hname⟩

/-- A block comes just before a place among the blocks of a scan. -/
def JustBefore (blocks : List PlacedBlock) (a : PlacedBlock) (place : Nat) : Prop :=
  ∃ before after, blocks = before ++ a :: after ∧ a.start < place ∧ ∀ b ∈ after, place ≤ b.start

/-- **A fitting block is passed over exactly where the block taken just before it runs into
it.** -/
theorem LeftToRight.not_mem_iff {cs : List Char} {i : Nat} {blocks : List PlacedBlock}
    {b : PlacedBlock} (h : LeftToRight cs i blocks) (hb : b.FitsIn cs) (hi : i ≤ b.start) :
    b ∉ blocks ↔ ∃ a, JustBefore blocks a b.start ∧ a.RunsInto b := by
  constructor
  · intro hnot
    induction h with
    | done hnone =>
        have := hnone b hb
        omega
    | @take i a blocks ha hia hfirst hrest ih =>
        have hab := hfirst b hb hi
        rcases Nat.lt_or_ge b.start a.stop with hlt | hge
        · -- the block starts within `a`, which runs into it
          have hne : a.start ≠ b.start := by
            intro heq
            exact hnot (by rw [ha.unique hb heq]; exact List.mem_cons_self)
          refine ⟨a, ⟨[], blocks, rfl, by omega, fun c hc => ?_⟩,
            PlacedBlock.runsInto_of_overlap ha hb (by omega) hlt⟩
          have := (hrest.fitsIn_of_mem hc).2
          omega
        · -- it starts behind `a`, and is passed over by the rest of the scan
          obtain ⟨c, ⟨before, after, rfl, hlast⟩, hruns⟩ :=
            ih hge fun hmem => hnot (List.mem_cons_of_mem a hmem)
          exact ⟨c, ⟨a :: before, after, rfl, hlast⟩, hruns⟩
  · rintro ⟨a, ⟨before, after, rfl, hab, -⟩, hruns, -⟩ hmem
    obtain ⟨-, hafter, hcross⟩ := List.pairwise_append.1 h.pairwise
    have ha := (h.fitsIn_of_mem (a := a) (by simp)).1.start_lt_stop
    have hblock := hb.start_lt_stop
    rcases List.mem_append.1 hmem with hmem | hmem
    · have := hcross b hmem a (by simp)
      omega
    · rcases List.mem_cons.1 hmem with rfl | hmem
      · omega
      · have := List.rel_of_pairwise_cons hafter hmem
        omega

/-- **The covering tests of a source are the blocks of its scan.** The scan leaves no choice, at one
place at most one block fits, a fitting block is passed over exactly where the block taken just
before it runs into it, and fitting blocks overlap in no other way. -/
theorem coveringTests_leftToRight (source : String) :
    ∃ blocks : List PlacedBlock,
      (∀ blocks', LeftToRight source.toList 0 blocks' ↔ blocks' = blocks) ∧
      coveringTests source = blocks.map PlacedBlock.toTest ∧
      (∀ a b : PlacedBlock, a.FitsIn source.toList → b.FitsIn source.toList →
        a.start = b.start → a = b) ∧
      (∀ b : PlacedBlock, b.FitsIn source.toList →
        (b ∉ blocks ↔ ∃ a, JustBefore blocks a b.start ∧ a.RunsInto b)) ∧
      ∀ a b : PlacedBlock, a.FitsIn source.toList → b.FitsIn source.toList →
        a.start < b.start → b.start < a.stop → a.RunsInto b := by
  obtain ⟨blocks, hscan, hblocks⟩ :=
    exists_leftToRight (List.drop_zero (l := source.toList))
  refine ⟨blocks, fun blocks' => ⟨fun h => h.unique hscan, fun h => h ▸ hscan⟩, ?_,
    fun a b ha hb => ha.unique hb, fun b hb => hscan.not_mem_iff hb (Nat.zero_le _),
    fun a b ha hb => PlacedBlock.runsInto_of_overlap ha hb⟩
  rw [coveringTests, hblocks, List.map_map]
  rfl

/-- A name that ends in `test` takes the call behind it. -/
example :
    coveringTests "test('a', () => \x7b\n // test_test('b', () => \x7b\n // test_c\n" =
      [⟨"a", "test_test"⟩] := by
  decide +kernel

end SuiteAudit
