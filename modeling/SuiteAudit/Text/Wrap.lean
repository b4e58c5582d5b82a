import SuiteAudit.Text.Alphanumeric
import SuiteAudit.Text.Breaks
import SuiteAudit.Text.Columns
import SuiteAudit.Text.Escape
/-!
# Text — filling lines

A text is filled into lines of a given width. It falls into segments where a line
may break, which control sequences do not bear on. From there on a word is its
characters: it falls apart behind a hyphen between letters, the spaces at its end
are told apart, and its width is read from it alone, even where a piece of it
begins inside a control sequence. A line takes words as long as they fit; a word
that is wider than a line is cut. A line feed in the text always begins a new line,
and every line begins with a margin.
-/

namespace SuiteAudit.Text

/-- A piece of text that is never cut: a character, or a control sequence, of which nothing shows.
-/
inductive Glyph where
  | shown (char : Char)
  | hidden (chars : List Char)
deriving Repr, DecidableEq, Inhabited

namespace Glyph

/-- The characters of a glyph. -/
def chars : Glyph → List Char
  | shown c => [c]
  | hidden cs => cs

/-- The number of columns of a glyph. -/
def width : Glyph → Nat
  | shown c => columns c
  | hidden _ => 0

/-- The character that a glyph shows. -/
def char? : Glyph → Option Char
  | shown c => some c
  | hidden _ => none

end Glyph

/-- The glyphs of a text. -/
def glyphs (cs : List Char) : List Glyph :=
  match _h : afterEscape? cs with
  | some rest => .hidden (cs.take (cs.length - rest.length)) :: glyphs rest
  | none =>
    match cs with
    | [] => []
    | c :: cs => .shown c :: glyphs cs
termination_by cs.length
decreasing_by
  · exact length_lt_of_afterEscape? ‹_›
  · simp

/-- The number of columns of a row of glyphs. -/
def glyphsWidth : List Glyph → Nat
  | [] => 0
  | glyph :: row => glyph.width + glyphsWidth row

/-- The number of columns of some characters, read as a text of their own. -/
def width (cs : List Char) : Nat :=
  glyphsWidth (glyphs cs)

/-! ## Segments -/

/-- A hyphen that is left out of the breaks between characters. A soft hyphen never breaks, and a
plain one only inside a word. -/
def isHyphen (c : Char) : Bool :=
  c == '-' || c == '\xad'

/-- Whether a line may be filled up to each of some characters: where it may break, but not behind
a hyphen. -/
def fillBreaks (cs : List Char) : List Bool :=
  ((breaks cs).zip (' ' :: cs)).map fun (allowed, last) => allowed && !isHyphen last

/-- Puts some characters before the first of some pieces. -/
def prepend (cs : List Char) : List (List Char) → List (List Char)
  | [] => [cs]
  | piece :: more => (cs ++ piece) :: more

/-- The segments of a row of glyphs, given for each character that it shows whether a segment begins
there. A control sequence goes with the character behind it. -/
def segmentsAt : List Bool → List Glyph → List (List Char)
  | _, [] => [[]]
  | begins, .shown c :: row =>
    let segments := prepend [c] (segmentsAt begins.tail row)
    if begins.headD false then [] :: segments else segments
  | begins, .hidden cs :: row =>
    match segmentsAt begins row with
    | [] :: segment :: more => [] :: (cs ++ segment) :: more
    | segments => prepend cs segments

/-- Makes one piece of the last two. -/
def joinLastTwo : List (List Char) → List (List Char)
  | [] => []
  | [piece] => [piece]
  | [a, b] => [a ++ b]
  | piece :: more => piece :: joinLastTwo more

/-- The segments of a line. Where the characters that it shows end with a hyphen, the break before
the last segment is lost. -/
def segments (line : List Char) : List (List Char) :=
  let row := glyphs line
  let shown := row.filterMap Glyph.char?
  let found := segmentsAt (fillBreaks shown) row
  if shown.getLast?.any isHyphen then joinLastTwo found else found

/-! ## Words -/

/-- A word and the number of spaces behind it. -/
structure Word where
  body : List Char
  spaces : Nat
deriving Repr, DecidableEq, Inhabited

namespace Word

/-- The word without characters. -/
def none : Word :=
  ⟨[], 0⟩

/-- The number of columns of a word, its spaces not counted. -/
def width (word : Word) : Nat :=
  Text.width word.body

/-- A word with its spaces. -/
def full (word : Word) : List Char :=
  word.body ++ List.replicate word.spaces ' '

/-- A segment as a word: the spaces at its end are told apart, whether they show or not. -/
def ofSegment (segment : List Char) : Word :=
  let body := (segment.reverse.dropWhile (· == ' ')).reverse
  ⟨body, segment.length - body.length⟩

/-- The pieces of a word as words. The spaces stay with the last of them. -/
def ofPieces (spaces : Nat) : List (List Char) → List Word
  | [] => []
  | [piece] => [⟨piece, spaces⟩]
  | piece :: more => ⟨piece, 0⟩ :: ofPieces spaces more

/-- The pieces of a word, cut behind each hyphen that stands between letters. -/
def hyphenPieces (before : Option Char) : List Char → List (List Char)
  | '-' :: c :: cs =>
    let pieces := hyphenPieces (some '-') (c :: cs)
    if before.any isAlphanumeric && isAlphanumeric c then ['-'] :: pieces
    else prepend ['-'] pieces
  | c :: cs => prepend [c] (hyphenPieces (some c) cs)
  | [] => [[]]

/-- Takes a word apart behind its hyphens. -/
def unhyphenate (word : Word) : List Word :=
  ofPieces word.spaces (hyphenPieces Option.none word.body)

/-- Cuts a row of glyphs so that no piece is wider than a line, given the width of the piece so far.
A piece has at least one glyph with a width. -/
def cutPieces (room width : Nat) : List Glyph → List (List Char)
  | [] => [[]]
  | glyph :: row =>
    if 0 < width && room < width + glyph.width && glyph.char?.isSome then
      [] :: prepend glyph.chars (cutPieces room glyph.width row)
    else prepend glyph.chars (cutPieces room (width + glyph.width) row)

/-- Cuts a word that is wider than a line. -/
def cut (room : Nat) (word : Word) : List Word :=
  if room < word.width then ofPieces word.spaces (cutPieces room 0 (glyphs word.body)) else [word]

/-- The words of a line, none wider than the room for it. The first is empty, so that a word that
does not fit beside the margin has a line of its own. -/
def ofLine (room : Nat) (line : List Char) : List Word :=
  none :: (((segments line).map ofSegment).flatMap unhyphenate).flatMap (cut room)

end Word

/-! ## Lines -/

/-- Fills words into lines, given what is on the current line and its width with all spaces. -/
def fillLines (room : Nat) (line : List Word) (width : Nat) : List Word → List (List Word)
  | [] => [line]
  | word :: words =>
    if room < width + word.width && !line.isEmpty then
      line :: fillLines room [word] (word.width + word.spaces) words
    else fillLines room (line ++ [word]) (width + word.width + word.spaces) words

/-- The text of a line. The spaces at its end are not written. -/
def lineText : List Word → List Char
  | [] => []
  | [word] => word.body
  | word :: words => word.full ++ lineText words

/-- The lines of a text before it is filled. -/
def splitLines : List Char → List (List Char)
  | [] => [[]]
  | c :: cs =>
    match splitLines cs with
    | [] => [[c]]
    | line :: more => if c == '\n' then [] :: line :: more else (c :: line) :: more

/-- Margins for the first line and for the others, of one width. -/
structure Margins where
  first : String
  others : String
deriving Repr, Inhabited

/-- Puts a margin before each line. -/
def Margins.before (margins : Margins) : List String → List String
  | [] => []
  | line :: lines => (margins.first ++ line) :: lines.map (margins.others ++ ·)

/-- Fills a text into lines that are at most so many columns wide with their margins. -/
def fill (lineWidth : Nat) (margins : Margins) (text : String) : String :=
  let room := lineWidth - width margins.first.toList
  let lines := (splitLines text.toList).flatMap fun line =>
    (fillLines room [] 0 (Word.ofLine room line)).map fun words =>
      String.ofList (lineText words)
  "\n".intercalate (margins.before lines)

end SuiteAudit.Text
