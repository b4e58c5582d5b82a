/-!
# Text — control sequences

Where a text is measured, an escape character and the control sequence that it
opens take no column. `afterEscape?` reads such a sequence, and more simply than a
terminal does: one that opens with a bracket runs to its first letter, one that
opens with a closing bracket runs to a bell or to an escaped backslash, and any
other is a single character.
-/

namespace SuiteAudit.Text

/-- The character that opens a control sequence. -/
def escapeChar : Char := '\x1b'

/-- A character that closes a bracketed sequence. -/
def isFinal (c : Char) : Bool :=
  '\x40' ≤ c && c ≤ '\x7e'

/-- What follows the end of a bracketed sequence. -/
def afterFinal : List Char → List Char
  | [] => []
  | c :: cs => if isFinal c then cs else afterFinal cs

/-- What follows the end of a text for the terminal itself, given the character before it. -/
def afterBell (last : Char) : List Char → List Char
  | [] => []
  | c :: cs => if c == '\x07' || (c == '\\' && last == escapeChar) then cs else afterBell c cs

/-- What follows the control sequence at the front of a text, if there is one. -/
def afterEscape? : List Char → Option (List Char)
  | [] => none
  | c :: cs =>
    if c == escapeChar then
      match cs with
      | '[' :: rest => some (afterFinal rest)
      | ']' :: rest => some (afterBell ']' rest)
      | _ :: rest => some rest
      | [] => some []
    else none

theorem length_afterFinal_le (cs : List Char) : (afterFinal cs).length ≤ cs.length := by
  induction cs with
  | nil => simp [afterFinal]
  | cons c cs ih =>
    simp only [afterFinal]
    split
    · simp
    · exact Nat.le_succ_of_le ih

theorem length_afterBell_le (last : Char) (cs : List Char) :
    (afterBell last cs).length ≤ cs.length := by
  induction cs generalizing last with
  | nil => simp [afterBell]
  | cons c cs ih =>
    simp only [afterBell]
    split
    · simp
    · exact Nat.le_succ_of_le (ih c)

/-- Reading past a control sequence leaves less than there was. -/
theorem length_lt_of_afterEscape? {cs rest : List Char} (h : afterEscape? cs = some rest) :
    rest.length < cs.length := by
  unfold afterEscape? at h
  grind [length_afterFinal_le, length_afterBell_le]

end SuiteAudit.Text
