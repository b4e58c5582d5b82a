import Mathlib.Data.List.Basic
/-!
# Lists — cut at marks, put together from segments

A list is cut in one way only where the first of some marks stands (`cut_at_mark`), as where
some element stands for the first time (`cut_at_first`). So a
list that is put together from segments, each of which begins with a head and holds no
other one, can be taken apart again (`segments_unique`).
-/

namespace SuiteAudit

variable {α β : Type} {p : β → Bool} {xs xs' ys ys' : List β}

/-- What stands in front of the first mark and behind it at once is nothing. -/
theorem eq_nil_of_cut (hxs : ∀ b ∈ xs, p b = false) (hys : ∀ b ∈ ys.head?, p b = true)
    (hsuf : ys' <:+ xs) (hpre : ys' <+: ys) : ys' = [] := by
  cases ys' with
  | nil => rfl
  | cons b ys' =>
    obtain ⟨rest, rfl⟩ := hpre
    have hmark := hys b rfl
    rw [hxs b (hsuf.subset (by simp))] at hmark
    cases hmark

/-- **A list is cut in one way only** into elements without a mark and a rest that is empty or
begins with one. -/
theorem cut_at_mark (h : xs ++ ys = xs' ++ ys') (hxs : ∀ b ∈ xs, p b = false)
    (hys : ∀ b ∈ ys.head?, p b = true) (hxs' : ∀ b ∈ xs', p b = false)
    (hys' : ∀ b ∈ ys'.head?, p b = true) : xs = xs' ∧ ys = ys' := by
  rcases List.append_eq_append_iff.1 h with ⟨more, rfl, rfl⟩ | ⟨more, rfl, rfl⟩
  · obtain rfl := eq_nil_of_cut hxs' hys (List.suffix_append xs more) (List.prefix_append more ys')
    simp
  · obtain rfl := eq_nil_of_cut hxs hys' (List.suffix_append xs' more) (List.prefix_append more ys)
    simp

/-- **A list is cut in one way only** where an element stands for the first time. -/
theorem cut_at_first [DecidableEq β] {b : β} (h : xs ++ b :: ys = xs' ++ b :: ys') (hxs : b ∉ xs)
    (hxs' : b ∉ xs') : xs = xs' ∧ ys = ys' := by
  have hplain : ∀ {xs : List β}, b ∉ xs → ∀ c ∈ xs, (c == b) = false := by
    intro xs hxs c hc
    exact beq_eq_false_iff_ne.2 fun heq => hxs (heq ▸ hc)
  have hmark : ∀ ys : List β, ∀ c ∈ (b :: ys).head?, (c == b) = true := by
    intro ys c hc
    rw [← Option.mem_some_iff.1 hc]
    exact beq_self_eq_true b
  obtain ⟨hfronts, hrests⟩ := cut_at_mark h (hplain hxs) (hmark ys) (hplain hxs') (hmark ys')
  exact ⟨hfronts, (List.cons.inj hrests).2⟩

/-- **A segment** begins with a head and holds no other one. -/
def IsSegment (p : β → Bool) (segment : List β) : Prop :=
  ∃ head tail, segment = head :: tail ∧ p head = true ∧ ∀ b ∈ tail, p b = false

/-- What is put together from segments is empty or begins with a head. -/
theorem head_flatMap_segments {f : α → List β} {as : List α} (h : ∀ a ∈ as, IsSegment p (f a)) :
    ∀ b ∈ (as.flatMap f).head?, p b = true := by
  cases as with
  | nil => simp
  | cons a as =>
    obtain ⟨head, tail, hsegment, hhead, -⟩ := h a (by simp)
    intro b hb
    rw [List.flatMap_cons, hsegment, List.cons_append, List.head?_cons, Option.mem_some_iff] at hb
    rwa [← hb]

/-- **Segments that are put together can be taken apart again.** -/
theorem segments_unique {f : α → List β} {as as' : List α} (heq : as.flatMap f = as'.flatMap f)
    (h : ∀ a ∈ as, IsSegment p (f a)) (h' : ∀ a ∈ as', IsSegment p (f a))
    (hinj : ∀ a ∈ as, ∀ a' ∈ as', f a = f a' → a = a') : as = as' := by
  induction as generalizing as' with
  | nil =>
    cases as' with
    | nil => rfl
    | cons a' as' =>
      obtain ⟨head, tail, hsegment, -⟩ := h' a' (by simp)
      rw [List.flatMap_nil, List.flatMap_cons, hsegment] at heq
      cases heq
  | cons a as ih =>
    obtain ⟨head, tail, hsegment, -, htail⟩ := h a (by simp)
    cases as' with
    | nil =>
      rw [List.flatMap_nil, List.flatMap_cons, hsegment] at heq
      cases heq
    | cons a' as' =>
      obtain ⟨head', tail', hsegment', -, htail'⟩ := h' a' (by simp)
      have has : ∀ b ∈ as, IsSegment p (f b) := fun b hb => h b (List.mem_cons_of_mem a hb)
      have has' : ∀ b ∈ as', IsSegment p (f b) := fun b hb => h' b (List.mem_cons_of_mem a' hb)
      simp only [List.flatMap_cons, hsegment, hsegment', List.cons_append, List.cons.injEq] at heq
      -- behind the head, the first segment ends where the next head stands
      obtain ⟨htails, hrests⟩ := cut_at_mark heq.2 htail (head_flatMap_segments has) htail'
        (head_flatMap_segments has')
      have hfirst : a = a' :=
        hinj a (by simp) a' (by simp) (by rw [hsegment, hsegment', heq.1, htails])
      have hothers : as = as' := ih hrests has has' fun b hb b' hb' =>
        hinj b (List.mem_cons_of_mem a hb) b' (List.mem_cons_of_mem a' hb')
      rw [hfirst, hothers]

end SuiteAudit
