import SuiteAudit.Text.Basic
import Mathlib.Data.List.TakeWhile
/-!
# Text — greedy runs

A reader that takes the longest run of a class of characters is told by three
facts: what the run is made of, where it stops, and that the two of them are the
text. `IsRun` and `StopsAt` name the first two, and `takeWhile_run` and
`dropWhile_run` say that they leave no choice. Where a text goes on inside an
append is told by `drop_append_cases`.
-/

namespace SuiteAudit.Text

variable {p q : Char → Bool} {cs run rest : List Char}

/-- A run of a class: one or more characters of it. -/
def IsRun (p : Char → Bool) (run : List Char) : Prop :=
  run ≠ [] ∧ ∀ c ∈ run, p c = true

-- asked of the characters of the run, where the statement is about all characters
instance (p : Char → Bool) (run : List Char) : Decidable (IsRun p run) :=
  decidable_of_iff (run ≠ [] ∧ run.all p = true) (by rw [IsRun, List.all_eq_true])

/-- A run of a class goes no further: the text ends, or goes on with a character of another
class. -/
def StopsAt (p : Char → Bool) (rest : List Char) : Prop :=
  ∀ c ∈ rest.head?, p c = false

@[simp] theorem stopsAt_nil : StopsAt p [] := by
  simp [StopsAt]

@[simp] theorem stopsAt_cons {c : Char} : StopsAt p (c :: rest) ↔ p c = false := by
  simp [StopsAt]

/-- What stops a class stops every smaller one. -/
theorem StopsAt.mono (hpq : ∀ c, p c = true → q c = true) (h : StopsAt q rest) :
    StopsAt p rest := by
  intro c hc
  by_contra hp
  have hq := h c hc
  rw [hpq c (by simpa using hp)] at hq
  cases hq

/-- The longest run is followed by something else. -/
theorem stopsAt_dropWhile (p : Char → Bool) (cs : List Char) : StopsAt p (cs.dropWhile p) := by
  intro c hc
  have := List.head?_dropWhile_not p cs
  rw [Option.mem_def.1 hc] at this
  simpa using this

/-- A run holds no character of another class. -/
theorem not_mem_run {c : Char} (hrun : ∀ c ∈ run, p c = true) (hc : p c = false) : c ∉ run := by
  intro hmem
  rw [hrun c hmem] at hc
  cases hc

/-- **The longest run is the run that stops**, -/
theorem takeWhile_run (hrun : ∀ c ∈ run, p c = true) (hrest : StopsAt p rest) :
    (run ++ rest).takeWhile p = run := by
  rw [List.takeWhile_append_of_pos hrun]
  cases rest with
  | nil => simp
  | cons c rest => simp [stopsAt_cons.1 hrest]

/-- **and what is left is what it stops at.** -/
theorem dropWhile_run (hrun : ∀ c ∈ run, p c = true) (hrest : StopsAt p rest) :
    (run ++ rest).dropWhile p = rest := by
  rw [List.dropWhile_append_of_pos hrun]
  cases rest with
  | nil => rfl
  | cons c rest => simp [stopsAt_cons.1 hrest]

/-- Two runs that stop in the same text are the same run. -/
theorem run_unique {run' rest' : List Char} (hrun : ∀ c ∈ run, p c = true)
    (hrest : StopsAt p rest) (hrun' : ∀ c ∈ run', p c = true) (hrest' : StopsAt p rest')
    (h : run ++ rest = run' ++ rest') : run = run' := by
  rw [← takeWhile_run hrun hrest, h, takeWhile_run hrun' hrest']

/-- **A reader of a run of one or more characters**, in terms of the run it reads. -/
theorem eq_some_iff_run {read : List Char → Option (List Char)} (hnil : read [] = none)
    (hcons : ∀ c cs, read (c :: cs) = if p c then some (cs.dropWhile p) else none) :
    read cs = some rest ↔ ∃ run, IsRun p run ∧ StopsAt p rest ∧ cs = run ++ rest := by
  constructor
  · intro h
    cases cs with
    | nil => simp [hnil] at h
    | cons c cs =>
      rw [hcons] at h
      split at h
      · rename_i hc
        obtain rfl := Option.some.inj h
        refine ⟨c :: cs.takeWhile p, ⟨by simp, ?_⟩, stopsAt_dropWhile p cs, ?_⟩
        · intro d hd
          rcases List.mem_cons.1 hd with rfl | hd
          · exact hc
          · exact List.mem_takeWhile_imp hd
        · rw [List.cons_append, List.takeWhile_append_dropWhile]
      · cases h
  · rintro ⟨run, ⟨hne, hrun⟩, hrest, rfl⟩
    cases run with
    | nil => exact absurd rfl hne
    | cons c run =>
      rw [List.cons_append, hcons, if_pos (hrun c (by simp)),
        dropWhile_run (fun d hd => hrun d (by simp [hd])) hrest]

/-- A part of a text that a character is not in lies in front of the character. -/
theorem exists_eq_append_of_not_mem {c : Char} {xs ys more : List Char} (hxs : c ∉ xs)
    (h : cs ++ c :: more = xs ++ ys) : ∃ tail, cs = xs ++ tail ∧ ys = tail ++ c :: more := by
  rcases List.append_eq_append_iff.1 h with ⟨zs, rfl, htail⟩ | ⟨zs, rfl, rfl⟩
  · -- the part goes beyond the front, and then holds the character
    cases zs with
    | nil => exact ⟨[], by simp, htail.symm⟩
    | cons d zs =>
      obtain rfl := (List.cons.inj htail).1
      simp at hxs
  · exact ⟨zs, rfl, rfl⟩

/-- A place in an append lies in its first part or in its second. -/
theorem drop_append_cases {α : Type} (xs ys : List α) (k : Nat) :
    (∃ zs, zs ≠ [] ∧ zs <:+ xs ∧ k + zs.length = xs.length ∧ (xs ++ ys).drop k = zs ++ ys) ∨
      ∃ j, k = xs.length + j ∧ (xs ++ ys).drop k = ys.drop j := by
  rcases Nat.lt_or_ge k xs.length with hk | hk
  · refine Or.inl ⟨xs.drop k, ?_, List.drop_suffix k xs, ?_, List.drop_append_of_le_length hk.le⟩
    · intro h
      have := List.drop_eq_nil_iff.1 h
      omega
    · rw [List.length_drop]
      omega
  · refine Or.inr ⟨k - xs.length, by omega, ?_⟩
    rw [List.drop_append, List.drop_eq_nil_of_le hk, List.nil_append]

end SuiteAudit.Text
