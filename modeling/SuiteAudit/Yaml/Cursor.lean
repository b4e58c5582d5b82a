import SuiteAudit.Text.Basic
import SuiteAudit.Text.Utf8
/-!
# YAML — reading a text from left to right

A mark is a place in a text: how many bytes come before it, its line, and its
column, which counts characters. Lines and columns count from zero here and from
one in messages. The very start of a text is never named in a message.

A cursor is what is left of a text, and the place where that begins. The
characters that end a word come in three kinds: spacing, line breaks, and the
end of the text. A line break is read as one character whatever its width.
-/

namespace SuiteAudit.Yaml

/-! ## Places -/

/-- A place in a text. -/
structure Mark where
  offset : Nat
  line : Nat
  column : Nat
deriving Repr, DecidableEq, Inhabited

namespace Mark

/-- The place before the first character. -/
def start : Mark :=
  ⟨0, 0, 0⟩

/-- The place behind some characters on the same line. -/
def advance (mark : Mark) (cs : List Char) : Mark :=
  ⟨mark.offset + Text.utf8Length cs, mark.line, mark.column + cs.length⟩

/-- The start of the next line, behind the characters of a line break. -/
def nextLine (mark : Mark) (cs : List Char) : Mark :=
  ⟨mark.offset + Text.utf8Length cs, mark.line + 1, 0⟩

/-- Whether a place is the first one of the text. -/
def isStart (mark : Mark) : Bool :=
  mark.line == 0 && mark.column == 0

/-- A place as the end of a message; the start of the text is left out. -/
def suffix (mark : Mark) : String :=
  if mark.isStart then ""
  else " at line " ++ toString (mark.line + 1) ++ " column " ++ toString (mark.column + 1)

@[simp] theorem advance_advance (mark : Mark) (xs ys : List Char) :
    (mark.advance xs).advance ys = mark.advance (xs ++ ys) := by
  simp [advance, Nat.add_assoc]

end Mark

/-! ## Characters -/

/-- Spaces and tabs. -/
def isSpacing (c : Char) : Bool :=
  c == ' ' || c == '\t'

/-- The characters that break a line: carriage return, line feed, next line, line separator and
paragraph separator. -/
def isBreak (c : Char) : Bool :=
  c == '\r' || c == '\n' || c == '\x85' || c == '\u2028' || c == '\u2029'

/-- The letters, digits, hyphens and underscores that names are made of. -/
def isNameLetter (c : Char) : Bool :=
  c.isAlphanum || c == '_' || c == '-'

/-- The mark that may open a line without being part of it. -/
def byteOrderMark : Char :=
  '\ufeff'

/-- Whether a text starts with spacing, a line break, or nothing at all. -/
def endsWord : List Char → Bool
  | [] => true
  | c :: _ => isSpacing c || isBreak c

/-- Whether a text starts with a line break or is at its end. -/
def endsLine : List Char → Bool
  | [] => true
  | c :: _ => isBreak c

/-! ## What is left of a text -/

/-- What is left to read, and where it begins. -/
structure Cursor where
  rest : List Char
  mark : Mark
deriving Repr, DecidableEq, Inhabited

namespace Cursor

/-- The beginning of a text. -/
def ofText (text : List Char) : Cursor :=
  ⟨text, .start⟩

/-- Passes over some characters of the line. -/
def advance (cursor : Cursor) (count : Nat) : Cursor :=
  ⟨cursor.rest.drop count, cursor.mark.advance (cursor.rest.take count)⟩

/-- Passes over the run of characters with a property. -/
def skipWhile (p : Char → Bool) (cursor : Cursor) : Cursor :=
  ⟨cursor.rest.dropWhile p, cursor.mark.advance (cursor.rest.takeWhile p)⟩

/-- Whether the next character is `c`. -/
def sees (cursor : Cursor) (c : Char) : Bool :=
  cursor.rest.head? == some c

/-- Passes over a line break. The separators of lines and paragraphs stand for themselves, every
other break for a line feed. -/
def readBreak? (cursor : Cursor) : Option (Char × Cursor) :=
  match cursor.rest with
  | '\r' :: '\n' :: rest => some ('\n', ⟨rest, cursor.mark.nextLine ['\r', '\n']⟩)
  | c :: rest =>
    if isBreak c then
      some (if c == '\u2028' || c == '\u2029' then c else '\n', ⟨rest, cursor.mark.nextLine [c]⟩)
    else none
  | [] => none

/-- Passes over a line break if there is one. -/
def skipBreak (cursor : Cursor) : Cursor :=
  match cursor.readBreak? with
  | some (_, next) => next
  | none => cursor

/-- Passes over spacing, and over a comment behind it, up to the end of the line. -/
def skipComment (cursor : Cursor) : Cursor :=
  let cursor := cursor.skipWhile isSpacing
  if cursor.sees '#' then cursor.skipWhile (!isBreak ·) else cursor

/-- Whether a document marker of three equal characters stands alone at the start of a line. -/
def seesMarker (cursor : Cursor) (c : Char) : Bool :=
  cursor.mark.column == 0 &&
    match Text.lead? [c, c, c] cursor.rest with
    | some rest => endsWord rest
    | none => false

/-- Whether either document marker stands here. -/
def seesAnyMarker (cursor : Cursor) : Bool :=
  cursor.seesMarker '-' || cursor.seesMarker '.'

/-- Passing over one character of a text that has one shortens it. -/
theorem length_advance_lt {cursor : Cursor} {c : Char} {cs : List Char}
    (h : cursor.rest = c :: cs) {count : Nat} (hcount : 0 < count) :
    (cursor.advance count).rest.length < cursor.rest.length := by
  simp only [advance, List.length_drop, h, List.length_cons]
  omega

theorem length_advance_le (cursor : Cursor) (count : Nat) :
    (cursor.advance count).rest.length ≤ cursor.rest.length := by
  simp [advance]

theorem length_skipWhile_le (p : Char → Bool) (cursor : Cursor) :
    (cursor.skipWhile p).rest.length ≤ cursor.rest.length :=
  Text.length_dropWhile_le p cursor.rest

/-- A line break takes up at least one character. -/
theorem length_lt_of_readBreak? {cursor next : Cursor} {c : Char}
    (h : cursor.readBreak? = some (c, next)) : next.rest.length < cursor.rest.length := by
  unfold readBreak? at h
  split at h
  · rename_i rest heq
    simp only [Option.some.injEq, Prod.mk.injEq] at h
    obtain ⟨-, rfl⟩ := h
    simp only [heq, List.length_cons]
    omega
  · rename_i heq
    split at h
    · simp only [Option.some.injEq, Prod.mk.injEq] at h
      obtain ⟨-, rfl⟩ := h
      simp [heq]
    · simp at h
  · simp at h

end Cursor

end SuiteAudit.Yaml
