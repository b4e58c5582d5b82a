import SuiteAudit.Yaml.Token.Block
import SuiteAudit.Yaml.Token.Directive
import SuiteAudit.Yaml.Token.Scalar
/-!
# YAML — from text to tokens

`Scanner.step` reads one token, and with it the tokens without characters that
become due: the ends of blocks when the text goes back to the left, and the
beginning of a mapping when a colon shows that the word before it was a key.
For the last, the scanner keeps for every nesting level the place of the latest
token that may still turn out to be a key.

A token may be handed out only when it is certain that no key begins before it.
`scan` therefore answers with the tokens that were certain when the text went
wrong, and the fault.
-/

namespace SuiteAudit.Yaml

/-- A place where a key may have begun: before which token, and whether nothing but a key can stand
there. -/
structure PossibleKey where
  required : Bool
  position : Nat
  mark : Mark
deriving Repr, DecidableEq, Inhabited

/-- A key fits on its line and in so many bytes. -/
def keyReach : Nat := 1024

/-- A possible key that lies on an earlier line, or too far back, is none. -/
def PossibleKey.isStale (key : PossibleKey) (mark : Mark) : Bool :=
  key.mark.line < mark.line || key.mark.offset + keyReach < mark.offset

/-- The state of reading a text: what is left of it, the tokens so far, the columns of the open
blocks with the innermost first, the possible key of the current level and those of the levels
around it, whether a key may begin here, and whether the end was reached. -/
structure Scanner where
  cursor : Cursor
  tokens : Array Token
  indents : List Nat
  key : Option PossibleKey
  outerKeys : List (Option PossibleKey)
  keyAllowed : Bool
  finished : Bool
deriving Inhabited

namespace Scanner

/-- The state before a text. -/
def ofText (text : List Char) : Scanner :=
  ⟨.ofText text, #[], [], none, [], true, false⟩

/-- Whether brackets are open. -/
def inFlow (s : Scanner) : Bool :=
  !s.outerKeys.isEmpty

/-- The least column that lies inside the innermost block. -/
def inside (s : Scanner) : Nat :=
  match s.indents with
  | [] => 0
  | column :: _ => column + 1

/-- Adds a token. -/
def emit (s : Scanner) (kind : TokenKind) (mark : Mark) : Scanner :=
  { s with tokens := s.tokens.push ⟨kind, mark⟩ }

/-- Adds a token before the one at a position. -/
def insertAt (s : Scanner) (position : Nat) (kind : TokenKind) (mark : Mark) : Scanner :=
  { s with tokens :=
      (s.tokens.extract 0 position).push ⟨kind, mark⟩ ++ s.tokens.extract position s.tokens.size }

/-- Opens a block at a column to the right of the innermost one. -/
def openBlock (s : Scanner) (column position : Nat) (kind : TokenKind) (mark : Mark) : Scanner :=
  if !s.inFlow && s.inside ≤ column then
    { s.insertAt position kind mark with indents := column :: s.indents }
  else s

/-- Closes the blocks that a column is to the left of; with no column, all blocks. -/
def closeBlocks (s : Scanner) (column : Option Nat) : Scanner :=
  if s.inFlow then s
  else
    let closed := (s.indents.takeWhile fun indent => column.all (· < indent)).length
    { s with
      tokens := s.tokens ++ Array.replicate closed ⟨.blockEnd, s.cursor.mark⟩
      indents := s.indents.drop closed }

/-- The fault of a key that is required and does not come. -/
def missingColon (s : Scanner) (key : PossibleKey) : Fault :=
  ⟨.missingColon, s.cursor.mark, some (.simpleKey, key.mark)⟩

/-- Gives up the possible key of the current level. -/
def dropKey (s : Scanner) : Except Fault Scanner :=
  match s.key with
  | some key => if key.required then .error (s.missingColon key) else .ok { s with key := none }
  | none => .ok s

/-- Notes that a key may begin here, if one may. -/
def noteKey (s : Scanner) : Except Fault Scanner :=
  if s.keyAllowed then do
    let s ← s.dropKey
    let required := !s.inFlow && s.indents.head? == some s.cursor.mark.column
    return { s with key := some ⟨required, s.tokens.size, s.cursor.mark⟩ }
  else .ok s

/-- The possible key of a level, unless it is stale. -/
def freshKey (s : Scanner) (key : Option PossibleKey) : Option PossibleKey :=
  key.filter fun key => !key.isStale s.cursor.mark

/-- Gives up the possible keys that have become stale. -/
def dropStaleKeys (s : Scanner) : Except Fault Scanner :=
  match (s.key :: s.outerKeys).findSome? fun key =>
      key.filter fun key => key.required && key.isStale s.cursor.mark with
  | some key => .error (s.missingColon key)
  | none => .ok { s with key := s.freshKey s.key, outerKeys := s.outerKeys.map s.freshKey }

/-- Passes over spacing, comments and line breaks up to the next token. Outside brackets a new line
allows a key, and a tab counts as spacing only where no key may begin. -/
def skipToToken (inFlow keyAllowed : Bool) (cursor : Cursor) : Bool × Cursor :=
  let marked :=
    if cursor.mark.column == 0 && cursor.sees byteOrderMark then cursor.advance 1 else cursor
  let spaced := marked.skipWhile fun c => c == ' ' || ((inFlow || !keyAllowed) && c == '\t')
  let next := if spaced.sees '#' then spaced.skipWhile (!isBreak ·) else spaced
  match _h : next.readBreak? with
  | some (_, after) => skipToToken inFlow (keyAllowed || !inFlow) after
  | none => (keyAllowed, next)
termination_by cursor.rest.length
decreasing_by
  refine Nat.lt_of_lt_of_le (Cursor.length_lt_of_readBreak? _h) ?_
  have h₁ : marked.rest.length ≤ cursor.rest.length := by
    simp only [marked]
    split
    · exact Cursor.length_advance_le _ _
    · exact Nat.le_refl _
  have h₂ : spaced.rest.length ≤ marked.rest.length := Cursor.length_skipWhile_le _ _
  have h₃ : next.rest.length ≤ spaced.rest.length := by
    simp only [next]
    split
    · exact Cursor.length_skipWhile_le _ _
    · exact Nat.le_refl _
  omega

/-- Adds a token that stands at the cursor and has so many characters. -/
def take (s : Scanner) (kind : TokenKind) (width : Nat) : Scanner :=
  { s.emit kind s.cursor.mark with cursor := s.cursor.advance width }

/-- The end of the text: all blocks close at the start of a line after the last one. -/
def readEnd (s : Scanner) : Except Fault Scanner := do
  let mark := s.cursor.mark
  let s :=
    if mark.column = 0 then s
    else { s with cursor := { s.cursor with mark := mark.nextLine [] } }
  let s ← (s.closeBlocks none).dropKey
  return { s.take .streamEnd 0 with keyAllowed := false, finished := true }

/-- A directive line. -/
def readDirectiveLine (s : Scanner) : Except Fault Scanner := do
  let s ← (s.closeBlocks none).dropKey
  let (kind, next) ← readDirective s.cursor
  return { s.emit kind s.cursor.mark with keyAllowed := false, cursor := next }

/-- The marker of a document. -/
def readMarker (s : Scanner) (kind : TokenKind) : Except Fault Scanner := do
  let s ← (s.closeBlocks none).dropKey
  return { s.take kind 3 with keyAllowed := false }

/-- An opening bracket. A new level begins, on which a key may begin. -/
def openFlow (s : Scanner) (kind : TokenKind) : Except Fault Scanner := do
  let s ← s.noteKey
  return { s.take kind 1 with key := none, outerKeys := s.key :: s.outerKeys, keyAllowed := true }

/-- A closing bracket, whether or not one is open. -/
def closeFlow (s : Scanner) (kind : TokenKind) : Except Fault Scanner := do
  let s ← s.dropKey
  let s := { s.take kind 1 with keyAllowed := false }
  match s.outerKeys with
  | [] => return s
  | key :: outer => return { s with key := key, outerKeys := outer }

/-- A comma between the entries of a flow collection. -/
def readFlowEntry (s : Scanner) : Except Fault Scanner := do
  let s ← s.dropKey
  return { s.take .flowEntry 1 with keyAllowed := true }

/-- The hyphen of an entry. Outside brackets it may open a sequence. -/
def readBlockEntry (s : Scanner) : Except Fault Scanner := do
  let mark := s.cursor.mark
  if !s.inFlow && !s.keyAllowed then
    throw ⟨.entryNotAllowed, mark, none⟩
  let s ← (s.openBlock mark.column s.tokens.size .blockSequenceStart mark).dropKey
  return { s.take .blockEntry 1 with keyAllowed := true }

/-- The question mark of a key. Outside brackets it may open a mapping. -/
def readKey (s : Scanner) : Except Fault Scanner := do
  let mark := s.cursor.mark
  if !s.inFlow && !s.keyAllowed then
    throw ⟨.keyNotAllowed, mark, none⟩
  let s ← (s.openBlock mark.column s.tokens.size .blockMappingStart mark).dropKey
  return { s.take .key 1 with keyAllowed := !s.inFlow }

/-- The colon of a value. If a key may have begun before, it did; otherwise the value has an empty
key, or one that a question mark announced. -/
def readValue (s : Scanner) : Except Fault Scanner := do
  let mark := s.cursor.mark
  match s.key with
  | some key =>
    let s := s.insertAt key.position .key key.mark
    let s := s.openBlock key.mark.column key.position .blockMappingStart key.mark
    return { s.take .value 1 with key := none, keyAllowed := false }
  | none =>
    if !s.inFlow && !s.keyAllowed then
      throw ⟨.valueNotAllowed, mark, none⟩
    let s := s.openBlock mark.column s.tokens.size .blockMappingStart mark
    return { s.take .value 1 with keyAllowed := !s.inFlow }

/-- A word behind an indicator: an alias, an anchor or a tag. -/
def readWord (s : Scanner) (read : Cursor → Except Fault (TokenKind × Cursor)) :
    Except Fault Scanner := do
  let s ← s.noteKey
  let (kind, next) ← read s.cursor
  return { s.emit kind s.cursor.mark with keyAllowed := false, cursor := next }

/-- A block scalar. -/
def readBlockScalar (s : Scanner) (literal : Bool) : Except Fault Scanner := do
  let s ← s.dropKey
  let mark := s.cursor.mark
  let (text, next) ← readBlock literal s.inside mark (s.cursor.advance 1)
  return { s.emit (.scalar text false) mark with keyAllowed := true, cursor := next }

/-- A quoted scalar. -/
def readQuotedScalar (s : Scanner) (double : Bool) : Except Fault Scanner := do
  let s ← s.noteKey
  let mark := s.cursor.mark
  let (text, next) ← readQuoted double mark [] .none (s.cursor.advance 1)
  return { s.emit (.scalar text false) mark with keyAllowed := false, cursor := next }

/-- A plain scalar. When it ended behind a line break, a key may begin there. -/
def readPlainScalar (s : Scanner) : Except Fault Scanner := do
  let s ← s.noteKey
  let mark := s.cursor.mark
  let (text, leftLine, next) ← readPlain s.inFlow s.inside mark [] none s.cursor
  return { s.emit (.scalar text true) mark with keyAllowed := leftLine, cursor := next }

/-- The characters that have a meaning of their own at the start of a word. -/
def isIndicator (c : Char) : Bool :=
  "-?:,[]\x7b\x7d#&*!|>'\"%@`".contains c

/-- Whether a plain scalar may start with a character, given what comes after it. -/
def startsPlain (inFlow : Bool) (c : Char) (after : List Char) : Bool :=
  (!isSpacing c && !isIndicator c) || (c == '-' && !after.head?.any isSpacing) ||
    (!inFlow && (c == '?' || c == ':') && !endsWord after)

/-- Reads the token that starts with a character, which is the one at the cursor. -/
def readToken (s : Scanner) (c : Char) (after : List Char) : Except Fault Scanner :=
  if s.cursor.mark.column == 0 && c == '%' then s.readDirectiveLine
  else if s.cursor.seesMarker '-' then s.readMarker .documentStart
  else if s.cursor.seesMarker '.' then s.readMarker .documentEnd
  else if c == '[' then s.openFlow .flowSequenceStart
  else if c == '\x7b' then s.openFlow .flowMappingStart
  else if c == ']' then s.closeFlow .flowSequenceEnd
  else if c == '\x7d' then s.closeFlow .flowMappingEnd
  else if c == ',' then s.readFlowEntry
  else if c == '-' && endsWord after then s.readBlockEntry
  else if c == '?' && (s.inFlow || endsWord after) then s.readKey
  else if c == ':' && (s.inFlow || endsWord after) then s.readValue
  else if c == '*' then
    s.readWord fun cursor =>
      (readAnchor .aliasName cursor).map fun (name, next) => (.aliasOf name, next)
  else if c == '&' then
    s.readWord fun cursor =>
      (readAnchor .anchor cursor).map fun (name, next) => (.anchor name, next)
  else if c == '!' then
    s.readWord fun cursor =>
      (readTag s.inFlow cursor).map fun ((handle, text), next) => (.tag handle text, next)
  else if c == '|' && !s.inFlow then s.readBlockScalar true
  else if c == '>' && !s.inFlow then s.readBlockScalar false
  else if c == '\x27' then s.readQuotedScalar false
  else if c == '\x22' then s.readQuotedScalar true
  else if startsPlain s.inFlow c after then s.readPlainScalar
  else .error ⟨.strayCharacter, s.cursor.mark, some (.nextToken, s.cursor.mark)⟩

/-- Reads the next token, with the tokens that become due before it. -/
def step (s : Scanner) : Except Fault Scanner := do
  let (keyAllowed, cursor) := skipToToken s.inFlow s.keyAllowed s.cursor
  let s ← { s with keyAllowed := keyAllowed, cursor := cursor }.dropStaleKeys
  let s := s.closeBlocks (some s.cursor.mark.column)
  let s ← match s.cursor.rest with
    | [] => s.readEnd
    | c :: after => s.readToken c after
  s.dropStaleKeys

/-- The tokens before which no key can begin any more. -/
def certain (s : Scanner) : List Token :=
  let positions := (s.key :: s.outerKeys).filterMap fun key => key.map (·.position)
  s.tokens.toList.take (positions.foldl min s.tokens.size)

/-- Reads on to the end of the text, or to its fault. Every step takes up at least one character, so
the length of the text bounds their number. -/
def run (fuel : Nat) (s : Scanner) : List Token × Option Fault :=
  match fuel with
  | 0 => (s.tokens.toList, none)
  | fuel + 1 =>
    match s.step with
    | .error fault => (s.certain, some fault)
    | .ok next => if next.finished then (next.tokens.toList, none) else run fuel next

end Scanner

/-- The tokens of a text, and the fault at which reading it stopped. -/
def scan (text : List Char) : List Token × Option Fault :=
  (Scanner.ofText text).run (text.length + 1)

end SuiteAudit.Yaml
