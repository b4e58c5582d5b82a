/-!
# Text — similarity of two words

How alike two words are, between zero and one. Letters count as shared when
they are equal and stand at nearly the same place, and shared letters that come
in another order count for less.
-/

namespace SuiteAudit.Text

/-- A letter of a word, and whether it is shared already. -/
structure Letter where
  char : Char
  shared : Bool
deriving Repr, DecidableEq

/-- A word none of whose letters is shared yet. -/
def letters (word : List Char) : List Letter :=
  word.map fun c => ⟨c, false⟩

/-- How far apart two equal letters may stand. -/
def reach (a b : List Char) : Nat :=
  max a.length b.length / 2 - 1

/-- Shares the first free letter that equals `c` and stands at place `low` or later, before `high`.
-/
def share (c : Char) (low high : Nat) : List Letter → Option (List Letter)
  | [] => none
  | letter :: rest =>
    if high = 0 then none
    else if low = 0 && letter.char == c && !letter.shared then some (⟨c, true⟩ :: rest)
    else (share c (low - 1) (high - 1) rest).map (letter :: ·)

/-- Shares the letters of a word, from place `i` on, with another word. The result is what is shared
of the first word, and the second word. -/
def shareAll (reach i : Nat) : List Char → List Letter → List Char × List Letter
  | [], other => ([], other)
  | c :: cs, other =>
    match share c (i - reach) (i + reach + 1) other with
    | some other =>
      let (shared, other) := shareAll reach (i + 1) cs other
      (c :: shared, other)
    | none => shareAll reach (i + 1) cs other

/-- The letters of a word that are shared. -/
def sharedLetters (word : List Letter) : List Char :=
  (word.filter (·.shared)).map (·.char)

/-- At how many places two texts of one length differ. -/
def differences (a b : List Char) : Nat :=
  (a.zip b).countP fun (c, d) => c != d

/-- The similarity of two words: the mean of the shares of either word that are shared, and of the
part of the shared letters that comes in order. -/
def similarity (a b : List Char) : Float :=
  if a.isEmpty && b.isEmpty then 1
  else
    let (shared, other) := shareAll (reach a b) 0 a (letters b)
    let count := shared.length
    if count = 0 then 0
    else
      let moved := differences shared (sharedLetters other) / 2
      (count.toFloat / a.length.toFloat + count.toFloat / b.length.toFloat +
        (count - moved).toFloat / count.toFloat) / 3

/-- The last of the most similar words among some, if one is similar enough. -/
def mostSimilar? {α : Type} (name : α → String) (word : String) (candidates : List α) : Option α :=
  (candidates.foldl better none).map (·.1)
where
  /-- The better of what was found so far and a candidate. -/
  better (best : Option (α × Float)) (candidate : α) : Option (α × Float) :=
    let score := similarity word.toList (name candidate).toList
    if 0.7 < score then
      match best with
      | some (other, most) => if score < most then some (other, most) else some (candidate, score)
      | none => some (candidate, score)
    else best

end SuiteAudit.Text
