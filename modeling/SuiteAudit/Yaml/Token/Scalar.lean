import SuiteAudit.Yaml.Fault
/-!
# YAML — scalars, plain and quoted

A plain scalar has no quotes. It goes on over spacing and line breaks until a
comment, a document marker, a colon that ends a word, a line that is not
indented far enough, or, inside brackets, an indicator of the flow style.
Between single quotes every character stands for itself, and a quote is written
twice. Between double quotes a backslash begins an escape: one character by its
letter or by its code, or a line break that is left out.

In all of them there may be gaps of spacing and line breaks. Spacing within a
line is kept as it stands. A single line feed is folded to a space; when more
breaks follow, it is dropped and they are kept.
-/

namespace SuiteAudit.Yaml

/-! ## Gaps -/

/-- How a gap begins. -/
inductive GapStart where
  /-- With spacing, and no line break so far. -/
  | spacing (blanks : List Char)
  /-- With a line break that was escaped. -/
  | joined
  /-- With a line break. -/
  | broken (c : Char)
deriving Repr, DecidableEq, Inhabited

/-- A gap: how it begins, and the line breaks after its first one. -/
structure Gap where
  start : GapStart
  breaks : List Char
deriving Repr, DecidableEq, Inhabited

namespace Gap

/-- The gap of nothing. -/
def none : Gap :=
  ⟨.spacing [], []⟩

/-- The gap behind an escaped line break. -/
def joined : Gap :=
  ⟨.joined, []⟩

/-- Whether the gap has left the line on which it began. -/
def leftLine (gap : Gap) : Bool :=
  match gap.start with
  | .spacing _ => false
  | _ => true

/-- The gap with one more character of spacing; at the start of a line it does not count. -/
def addSpacing (gap : Gap) (c : Char) : Gap :=
  match gap.start with
  | .spacing blanks => ⟨.spacing (blanks ++ [c]), gap.breaks⟩
  | _ => gap

/-- The gap with one more line break; spacing before the first one is dropped. -/
def addBreak (gap : Gap) (c : Char) : Gap :=
  match gap.start with
  | .spacing _ => ⟨.broken c, gap.breaks⟩
  | start => ⟨start, gap.breaks ++ [c]⟩

/-- What the gap stands for in the scalar. -/
def text (gap : Gap) : List Char :=
  match gap.start with
  | .spacing blanks => blanks
  | .joined => gap.breaks
  | .broken c =>
    if c == '\n' then
      if gap.breaks.isEmpty then [' '] else gap.breaks
    else c :: gap.breaks

end Gap

/-! ## Plain scalars -/

/-- The indicators that part the entries of a flow collection. -/
def isFlowIndicator (c : Char) : Bool :=
  c == ',' || c == '[' || c == ']' || c == '\x7b' || c == '\x7d'

/-- Whether a character ends a plain scalar, given what comes after it. -/
def endsPlain (inFlow : Bool) (c : Char) (after : List Char) : Bool :=
  (c == ':' && endsWord after) || (inFlow && isFlowIndicator c)

/-- A colon inside a flow collection may not stand right before an indicator. -/
def isStrayColon (inFlow : Bool) (c : Char) (after : List Char) : Bool :=
  inFlow && c == ':' && after.head?.any fun d => isFlowIndicator d || d == '?'

/-- Reads on in a plain scalar: `text` is what was read so far, last character first, and `gap` the
gap since then. The answer also says whether the scalar ended behind a line break. -/
def readPlain (inFlow : Bool) (indent : Nat) (since : Mark) (text : List Char)
    (gap : Option Gap) (cursor : Cursor) : Except Fault (List Char × Bool × Cursor) :=
  match _h : cursor.rest with
  | [] => .ok (text.reverse, gap.any Gap.leftLine, cursor)
  | c :: cs =>
    if isSpacing c then
      if gap.any Gap.leftLine && cursor.mark.column < indent && c == '\t' then
        .error ⟨.tabBelowIndent, cursor.mark, some (.plainScalar, since)⟩
      else
        readPlain inFlow indent since text (some ((gap.getD .none).addSpacing c))
          (cursor.advance 1)
    else
      match _hb : cursor.readBreak? with
      | some (b, next) =>
        readPlain inFlow indent since text (some ((gap.getD .none).addBreak b)) next
      | none =>
        if gap.isSome && ((!inFlow && cursor.mark.column < indent) || cursor.seesAnyMarker ||
            c == '#') then
          .ok (text.reverse, gap.any Gap.leftLine, cursor)
        else if isStrayColon inFlow c cs then
          .error ⟨.strayColon, cursor.mark, some (.plainScalar, since)⟩
        else if endsPlain inFlow c cs then
          .ok (text.reverse, gap.any Gap.leftLine, cursor)
        else
          readPlain inFlow indent since (c :: ((gap.getD .none).text.reverse ++ text)) none
            (cursor.advance 1)
termination_by cursor.rest.length
decreasing_by
  · exact Cursor.length_advance_lt _h Nat.one_pos
  · exact Cursor.length_lt_of_readBreak? _hb
  · exact Cursor.length_advance_lt _h Nat.one_pos

/-! ## Quoted scalars -/

/-- The character that an escape with a single letter stands for. -/
def escapeLetter? (c : Char) : Option Char :=
  match c with
  | '0' => some '\x00'
  | 'a' => some '\x07'
  | 'b' => some '\x08'
  | 't' | '\t' => some '\t'
  | 'n' => some '\n'
  | 'v' => some '\x0b'
  | 'f' => some '\x0c'
  | 'r' => some '\r'
  | 'e' => some '\x1b'
  | ' ' => some ' '
  | '\x22' => some '\x22'
  | '/' => some '/'
  | '\\' => some '\\'
  | 'N' => some '\x85'
  | '_' => some '\xa0'
  | 'L' => some '\u2028'
  | 'P' => some '\u2029'
  | _ => none

/-- The number of digits of an escape by code. -/
def escapeWidth? (c : Char) : Option Nat :=
  match c with
  | 'x' => some 2
  | 'u' => some 4
  | 'U' => some 8
  | _ => none

/-- The value of a hexadecimal digit. -/
def hexDigit? (c : Char) : Option Nat :=
  if c.isDigit then some (c.toNat - '0'.toNat)
  else if 'a' ≤ c && c ≤ 'f' then some (c.toNat - 'a'.toNat + 10)
  else if 'A' ≤ c && c ≤ 'F' then some (c.toNat - 'A'.toNat + 10)
  else none

/-- The value of a run of hexadecimal digits, the first one being the greatest. -/
def hexValue (digits : List Nat) : Nat :=
  digits.foldl (fun value digit => 16 * value + digit) 0

/-- The code of an escape: exactly so many digits, and the number of a character. -/
def escapedCode? (width : Nat) (cs : List Char) : Except Problem Char :=
  match (cs.take width).mapM hexDigit? with
  | none => .error .missingHexDigit
  | some digits =>
    if digits.length < width then .error .missingHexDigit
    else if (hexValue digits).isValidChar then .ok (Char.ofNat (hexValue digits))
    else .error .badCodePoint

/-- Reads on in a quoted scalar up to its closing quote: `text` is what was read so far, last
character first, and `gap` the gap since then. -/
def readQuoted (double : Bool) (since : Mark) (text : List Char) (gap : Gap) (cursor : Cursor) :
    Except Fault (List Char × Cursor) :=
  if cursor.seesAnyMarker then
    .error ⟨.documentMarker, cursor.mark, some (.quotedScalar, since)⟩
  else
    match _h : cursor.rest with
    | [] => .error ⟨.endOfText, cursor.mark, some (.quotedScalar, since)⟩
    | c :: cs =>
      if isSpacing c then
        readQuoted double since text (gap.addSpacing c) (cursor.advance 1)
      else
        match _hb : cursor.readBreak? with
        | some (b, next) => readQuoted double since text (gap.addBreak b) next
        | none =>
          let text := gap.text.reverse ++ text
          if !double && c == '\x27' && cs.head? == some '\x27' then
            readQuoted double since ('\x27' :: text) .none (cursor.advance 2)
          else if c == (if double then '\x22' else '\x27') then
            .ok (text.reverse, cursor.advance 1)
          else if double && c == '\\' then
            match _he : (cursor.advance 1).readBreak? with
            | some (_, next) => readQuoted double since text .joined next
            | none =>
              match cs.head?.bind escapeLetter?, cs.head?.bind escapeWidth? with
              | some d, _ => readQuoted double since (d :: text) .none (cursor.advance 2)
              | none, some width =>
                match escapedCode? width (cs.drop 1) with
                | .ok d =>
                  readQuoted double since (d :: text) .none (cursor.advance (2 + width))
                | .error problem =>
                  .error ⟨problem, (cursor.advance 2).mark, some (.escape, since)⟩
              | none, none => .error ⟨.unknownEscape, cursor.mark, some (.escape, since)⟩
          else
            readQuoted double since (c :: text) .none (cursor.advance 1)
termination_by cursor.rest.length
decreasing_by
  · exact Cursor.length_advance_lt _h Nat.one_pos
  · exact Cursor.length_lt_of_readBreak? _hb
  · exact Cursor.length_advance_lt _h Nat.two_pos
  · exact Nat.lt_of_lt_of_le (Cursor.length_lt_of_readBreak? _he) (Cursor.length_advance_le _ _)
  · exact Cursor.length_advance_lt _h Nat.two_pos
  · exact Cursor.length_advance_lt _h (by omega)
  · exact Cursor.length_advance_lt _h Nat.one_pos

end SuiteAudit.Yaml
