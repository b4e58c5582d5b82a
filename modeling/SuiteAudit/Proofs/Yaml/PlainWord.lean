import SuiteAudit.Proofs.Text.Greedy
import SuiteAudit.Yaml.Token.Scanner
/-!
# YAML — words without quotes

A word stands without quotes where none of its characters ends a plain scalar and the first one
has no meaning of its own. Such a word is taken in character by character (`readPlain_run`), and
a line break behind it ends it unless the next line is indented (`readPlain_feed`).
-/

namespace SuiteAudit.Yaml

open Text

variable {word rest text : List Char} {mark since : Mark} {cursor : Cursor} {inside : Nat}

/-- The characters inside a word without quotes. A colon may end a word, so it is none of them. -/
def isPlainChar (c : Char) : Bool :=
  !isSpacing c && !isBreak c && c != ':'

theorem isPlainChar_iff {c : Char} :
    isPlainChar c = true ↔ isSpacing c = false ∧ isBreak c = false ∧ c ≠ ':' := by
  simp [isPlainChar, and_assoc]

/-- **A word that needs no quotes.** -/
structure IsPlainWord (word : List Char) : Prop where
  ne_nil : word ≠ []
  chars : ∀ c ∈ word, isPlainChar c = true
  lead : StopsAt Scanner.isIndicator word

/-! ## What a cursor passes over -/

@[simp] theorem Mark.advance_nil (mark : Mark) : mark.advance [] = mark := rfl

theorem Cursor.readBreak?_of_stopsAt (h : StopsAt isBreak cursor.rest) :
    cursor.readBreak? = none := by
  unfold readBreak?
  split
  · rename_i rest hrest
    rw [hrest, stopsAt_cons] at h
    exact absurd h (by decide)
  · rename_i c rest _ hrest
    rw [hrest, stopsAt_cons] at h
    rw [h]
    rfl
  · rfl

theorem Cursor.readBreak?_feed :
    Cursor.readBreak? ⟨'\n' :: rest, mark⟩ = some ('\n', ⟨rest, mark.nextLine ['\n']⟩) := rfl

/-- A plain character that stands in a word is taken in. -/
theorem readPlain_cons {c : Char} (hc : isPlainChar c = true) :
    readPlain false inside since text none ⟨c :: rest, mark⟩ =
      readPlain false inside since (c :: text) none ⟨rest, mark.advance [c]⟩ := by
  obtain ⟨hspacing, hbreak, hcolon⟩ := isPlainChar_iff.1 hc
  have hnone : Cursor.readBreak? ⟨c :: rest, mark⟩ = none :=
    Cursor.readBreak?_of_stopsAt (stopsAt_cons.2 hbreak)
  rw [readPlain]
  split
  · rename_i hnil
    cases hnil
  · rename_i hcons
    obtain ⟨rfl, rfl⟩ := List.cons.inj hcons
    rw [if_neg (by simp [hspacing])]
    split
    · rename_i b next hb
      rw [hnone] at hb
      cases hb
    · simp [hcolon, isStrayColon, endsPlain, Cursor.advance, Gap.none, Gap.text]

/-- **A plain scalar takes in a run of plain characters.** -/
theorem readPlain_run (hword : ∀ c ∈ word, isPlainChar c = true) :
    readPlain false inside since text none ⟨word ++ rest, mark⟩ =
      readPlain false inside since (word.reverse ++ text) none ⟨rest, mark.advance word⟩ := by
  induction word generalizing text mark with
  | nil => rfl
  | cons c word ih =>
    rw [List.cons_append, readPlain_cons (hword c (by simp)), ih fun d hd => hword d (by simp [hd]),
      Mark.advance_advance]
    simp

/-- Behind a line break, a plain scalar ends at what is not indented. -/
theorem readPlain_outside {gap : Gap} (hgap : gap.leftLine = true)
    (hcolumn : mark.column < inside) (hspacing : StopsAt isSpacing rest)
    (hbreak : StopsAt isBreak rest) :
    readPlain false inside since text (some gap) ⟨rest, mark⟩ =
      .ok (text.reverse, true, ⟨rest, mark⟩) := by
  have hnone : Cursor.readBreak? ⟨rest, mark⟩ = none := Cursor.readBreak?_of_stopsAt hbreak
  rw [readPlain]
  split
  · simp [hgap]
  · rename_i c cs hcons
    rw [show rest = c :: cs from hcons, stopsAt_cons] at hspacing
    rw [if_neg (by simp [hspacing])]
    split
    · rename_i b next hb
      rw [hnone] at hb
      cases hb
    · simp [hcolumn, hgap]

/-- **A plain scalar ends with its line** where the next line is not indented. -/
theorem readPlain_feed (hinside : 0 < inside) (hspacing : StopsAt isSpacing rest)
    (hbreak : StopsAt isBreak rest) :
    readPlain false inside since text none ⟨'\n' :: rest, mark⟩ =
      .ok (text.reverse, true, ⟨rest, mark.nextLine ['\n']⟩) := by
  rw [readPlain]
  split
  · rename_i hnil
    cases hnil
  · rename_i hcons
    obtain ⟨rfl, rfl⟩ := List.cons.inj hcons
    rw [if_neg (by decide)]
    split
    · rename_i b next hb
      rw [Cursor.readBreak?_feed] at hb
      cases hb
      exact readPlain_outside rfl hinside hspacing hbreak
    · rename_i hb
      cases hb

end SuiteAudit.Yaml
