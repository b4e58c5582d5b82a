/-!
# Text — bytes and characters

The contents of a file are text only if they are UTF-8 throughout. A name is
shown whatever its bytes are: every longest stretch that could still have become
a character, and every byte that could not begin one, is shown as the replacement
character.
-/

namespace SuiteAudit.Text

/-- The character that is shown for bytes that spell none. -/
def replacement : Char :=
  '\ufffd'

/-- What a first byte announces: how many bytes follow, the least and the greatest value of the
first of them, and the bits of the first byte. -/
structure Announced where
  following : Nat
  least : Nat
  greatest : Nat
  bits : Nat
deriving Repr, DecidableEq, Inhabited

/-- What a byte beyond ASCII announces, if a character can begin with it. -/
def announced? (byte : Nat) : Option Announced :=
  if 0xC2 ≤ byte && byte ≤ 0xDF then some ⟨1, 0x80, 0xBF, byte - 0xC0⟩
  else if byte == 0xE0 then some ⟨2, 0xA0, 0xBF, 0⟩
  else if byte == 0xED then some ⟨2, 0x80, 0x9F, 0xD⟩
  else if 0xE1 ≤ byte && byte ≤ 0xEF then some ⟨2, 0x80, 0xBF, byte - 0xE0⟩
  else if byte == 0xF0 then some ⟨3, 0x90, 0xBF, 0⟩
  else if byte == 0xF4 then some ⟨3, 0x80, 0x8F, 4⟩
  else if 0xF1 ≤ byte && byte ≤ 0xF3 then some ⟨3, 0x80, 0xBF, byte - 0xF0⟩
  else none

/-- Reads the bytes that were announced: the code point if all of them are there, and what is left.
-/
def readFollowing (following least greatest bits : Nat) (bytes : List UInt8) :
    Option Nat × List UInt8 :=
  match following, bytes with
  | 0, _ => (some bits, bytes)
  | _ + 1, [] => (none, [])
  | following + 1, byte :: rest =>
    if least ≤ byte.toNat && byte.toNat ≤ greatest then
      readFollowing following 0x80 0xBF (64 * bits + (byte.toNat - 0x80)) rest
    else (none, bytes)

theorem length_readFollowing_le (following least greatest bits : Nat) (bytes : List UInt8) :
    (readFollowing following least greatest bits bytes).2.length ≤ bytes.length := by
  induction following generalizing least greatest bits bytes with
  | zero => simp [readFollowing]
  | succ n ih =>
    cases bytes with
    | nil => simp [readFollowing]
    | cons b bytes =>
      simp only [readFollowing]
      split
      · exact Nat.le_succ_of_le (ih _ _ _ _)
      · exact Nat.le_refl _

/-- The characters that bytes are shown as. -/
def showBytes (bytes : List UInt8) : List Char :=
  match bytes with
  | [] => []
  | byte :: rest =>
    if byte.toNat < 0x80 then Char.ofNat byte.toNat :: showBytes rest
    else
      match announced? byte.toNat with
      | none => replacement :: showBytes rest
      | some a =>
        let read := readFollowing a.following a.least a.greatest a.bits rest
        (read.1.elim replacement Char.ofNat) :: showBytes read.2
termination_by bytes.length
decreasing_by
  · simp
  · simp
  · exact Nat.lt_succ_of_le (length_readFollowing_le _ _ _ _ _)

/-- The number of bytes of some characters. -/
def utf8Length : List Char → Nat
  | [] => 0
  | c :: cs => c.utf8Size + utf8Length cs

@[simp] theorem utf8Length_append (xs ys : List Char) :
    utf8Length (xs ++ ys) = utf8Length xs + utf8Length ys := by
  induction xs with
  | nil => simp [utf8Length]
  | cons x xs ih => simp [utf8Length, ih, Nat.add_assoc]

/-- The bytes of a text. -/
def utf8Bytes (text : String) : List UInt8 :=
  text.toUTF8.toList

end SuiteAudit.Text
