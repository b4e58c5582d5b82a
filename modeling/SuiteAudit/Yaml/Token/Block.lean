import SuiteAudit.Yaml.Fault
/-!
# YAML — block scalars

A block scalar is a header line and the lines indented below it. The indent is
given in the header or taken from the first line that is not blank. A literal
scalar keeps its line breaks; a folded one turns a single break between two
lines that start with a letter into a space. The header also says what becomes of
the breaks at the end.
-/

namespace SuiteAudit.Yaml

/-- What becomes of the line breaks at the end of a block scalar. -/
inductive Chomping where
  /-- None is left. -/
  | strip
  /-- The first is left. -/
  | clip
  /-- All are left. -/
  | keep
deriving Repr, DecidableEq, Inhabited

/-- The header of a block scalar: what becomes of the last breaks, and the indent if it is given. -/
structure BlockHeader where
  chomping : Chomping
  indent : Option Nat
deriving Repr, DecidableEq, Inhabited

/-- Reads the sign that says what becomes of the last breaks. -/
def readChomping (cursor : Cursor) : Option Chomping × Cursor :=
  if cursor.sees '+' then (some .keep, cursor.advance 1)
  else if cursor.sees '-' then (some .strip, cursor.advance 1)
  else (none, cursor)

/-- Reads the digit that gives the indent, which cannot be zero. -/
def readIndentDigit (since : Mark) (cursor : Cursor) : Except Fault (Option Nat × Cursor) :=
  match cursor.rest with
  | c :: _ =>
    if c == '0' then .error ⟨.zeroIndent, cursor.mark, some (.blockScalar, since)⟩
    else if c.isDigit then .ok (some (c.toNat - '0'.toNat), cursor.advance 1)
    else .ok (none, cursor)
  | [] => .ok (none, cursor)

/-- Reads the header up to the end of its line: a sign and a digit in either order, and perhaps a
comment. -/
def readBlockHeader (since : Mark) (cursor : Cursor) : Except Fault (BlockHeader × Cursor) := do
  let (sign, cursor) := readChomping cursor
  let (digit, cursor) ← readIndentDigit since cursor
  let (sign, cursor) :=
    if sign.isNone && digit.isSome then readChomping cursor else (sign, cursor)
  let cursor := cursor.skipComment
  if endsLine cursor.rest then
    return (⟨sign.getD .clip, digit⟩, cursor.skipBreak)
  else
    throw ⟨.missingLineEnd, cursor.mark, some (.blockScalar, since)⟩

/-- Passes over spaces up to a column, or over all spaces while the indent is not known. -/
def skipIndent (indent : Option Nat) (cursor : Cursor) : Cursor :=
  match indent with
  | none => cursor.skipWhile (· == ' ')
  | some column =>
    cursor.advance (min (cursor.rest.takeWhile (· == ' ')).length (column - cursor.mark.column))

theorem length_skipIndent_le (indent : Option Nat) (cursor : Cursor) :
    (skipIndent indent cursor).rest.length ≤ cursor.rest.length := by
  unfold skipIndent
  split
  · exact Cursor.length_skipWhile_le _ _
  · exact Cursor.length_advance_le _ _

/-- Reads the blank lines up to the next line of text. The answer is their breaks, last one first,
and the widest indent that was met. -/
def readBlankLines (indent : Option Nat) (since : Mark) (widest : Nat) (breaks : List Char)
    (cursor : Cursor) : Except Fault (List Char × Nat × Cursor) :=
  let next := skipIndent indent cursor
  let widest := max widest next.mark.column
  if indent.all (next.mark.column < ·) && next.sees '\t' then
    .error ⟨.tabForIndent, next.mark, some (.blockScalar, since)⟩
  else
    match _h : next.readBreak? with
    | some (b, after) => readBlankLines indent since widest (b :: breaks) after
    | none => .ok (breaks, widest, next)
termination_by cursor.rest.length
decreasing_by
  exact Nat.lt_of_lt_of_le (Cursor.length_lt_of_readBreak? _h) (length_skipIndent_le _ _)

/-- The break between two lines of text: a folded line feed is dropped where both lines start with
something other than spacing, and becomes a space when no blank line is between them. -/
def foldBreak (literal : Bool) (lead : List Char) (blankBefore blankAfter : Bool)
    (breaks : List Char) : List Char :=
  if !literal && lead == ['\n'] && !blankBefore && !blankAfter then
    if breaks.isEmpty then [' '] else breaks
  else lead ++ breaks

/-- Whether a text starts with spacing. -/
def startsWithSpacing (cs : List Char) : Bool :=
  cs.head?.any isSpacing

/-- Reads the lines of text from the one at the cursor on. `lead` is the break that ended the line
before, `breaks` those of the blank lines since then, last one first, and `blankBefore` says
whether the line before started with spacing. -/
def readBlockLines (fuel : Nat) (literal : Bool) (indent : Nat) (since : Mark) (text : List Char)
    (lead breaks : List Char) (blankBefore : Bool) (cursor : Cursor) :
    Except Fault (List Char × List Char × List Char × Cursor) :=
  match fuel with
  | 0 => .ok (text, lead, breaks, cursor)
  | fuel + 1 =>
    if cursor.mark.column == indent && !cursor.rest.isEmpty then do
      let blankAfter := startsWithSpacing cursor.rest
      let line := cursor.rest.takeWhile (!isBreak ·)
      let cursor' := cursor.advance line.length
      let lead' := match cursor'.readBreak? with
        | some (b, _) => [b]
        | none => []
      let (breaks', _, next) ← readBlankLines (some indent) since 0 [] cursor'.skipBreak
      readBlockLines fuel literal indent since
        (text ++ foldBreak literal lead blankBefore blankAfter breaks.reverse ++ line)
        lead' breaks' blankAfter next
    else .ok (text, lead, breaks, cursor)

/-- Reads a block scalar behind its indicator. The indent of the text around it is given as the
least column that is inside. -/
def readBlock (literal : Bool) (inside : Nat) (since : Mark) (cursor : Cursor) :
    Except Fault (List Char × Cursor) := do
  let (header, cursor) ← readBlockHeader since cursor
  let given := header.indent.map (· + (inside - 1))
  let (breaks, widest, cursor) ← readBlankLines given since 0 [] cursor
  let indent := given.getD (max widest (max inside 1))
  let (text, lead, breaks, cursor) ←
    readBlockLines (cursor.rest.length + 1) literal indent since [] [] breaks false cursor
  let ending := match header.chomping with
    | .strip => []
    | .clip => lead
    | .keep => lead ++ breaks.reverse
  return (text ++ ending, cursor)

end SuiteAudit.Yaml
