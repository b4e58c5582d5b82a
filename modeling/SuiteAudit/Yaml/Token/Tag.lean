import SuiteAudit.Yaml.Token.Scalar
/-!
# YAML — anchors, aliases and tags

An anchor, an alias and a tag are words behind an indicator. A tag is a handle
between exclamation marks and a text; in the text a percent sign begins an octet
given by two hexadecimal digits, and such octets must spell characters.
-/

namespace SuiteAudit.Yaml

/-- Whether an anchor or alias may end before this text. -/
def endsAnchor (cs : List Char) : Bool :=
  endsWord cs || cs.head?.any fun c =>
    c == '?' || c == ':' || c == ',' || c == ']' || c == '\x7d' || c == '%' || c == '@' ||
    c == '\x60'

/-- Reads the name of an anchor or an alias, from its indicator on. -/
def readAnchor (activity : Activity) (cursor : Cursor) : Except Fault (List Char × Cursor) :=
  let name := (cursor.rest.drop 1).takeWhile isNameLetter
  let next := cursor.advance (1 + name.length)
  if name.isEmpty || !endsAnchor next.rest then
    .error ⟨.badAnchorName, next.mark, some (activity, cursor.mark)⟩
  else .ok (name, next)

/-- The characters of the text of a tag. Between angle brackets a few more are allowed. -/
def isTagChar (verbatim : Bool) (c : Char) : Bool :=
  isNameLetter c || ";/?:@&=+$.%!~*'()".contains c ||
    (verbatim && (c == ',' || c == '[' || c == ']'))

/-- How many octets a character has whose first octet is given. -/
def octetCount? (octet : Nat) : Option Nat :=
  if octet < 0x80 then some 1
  else if 0xC0 ≤ octet && octet < 0xE0 then some 2
  else if 0xE0 ≤ octet && octet < 0xF0 then some 3
  else if 0xF0 ≤ octet && octet < 0xF8 then some 4
  else none

/-- An octet given by a percent sign and two hexadecimal digits. -/
def escapedOctet? (cs : List Char) : Option Nat :=
  match cs with
  | '%' :: high :: low :: _ =>
    match hexDigit? high, hexDigit? low with
    | some high, some low => some (16 * high + low)
    | _, _ => none
  | _ => none

/-- Reads the text of a tag. `owed` is the number of octets that the last character still needs. An
octet is kept as the character of its number, which is the octet itself for all of ASCII. -/
def readTagText (verbatim : Bool) (activity : Activity) (since : Mark) (owed : Nat)
    (text : List Char) (cursor : Cursor) : Except Fault (List Char × Cursor) :=
  match _h : cursor.rest with
  | [] =>
    if owed = 0 then .ok (text.reverse, cursor)
    else .error ⟨.badEscapedOctet, cursor.mark, some (activity, since)⟩
  | c :: cs =>
    if owed = 0 && !isTagChar verbatim c then .ok (text.reverse, cursor)
    else if owed = 0 && c != '%' then
      readTagText verbatim activity since 0 (c :: text) (cursor.advance 1)
    else
      match escapedOctet? (c :: cs) with
      | none => .error ⟨.badEscapedOctet, cursor.mark, some (activity, since)⟩
      | some octet =>
        match owed with
        | 0 =>
          match octetCount? octet with
          | none => .error ⟨.badLeadingOctet, cursor.mark, some (activity, since)⟩
          | some count =>
            readTagText verbatim activity since (count - 1) (Char.ofNat octet :: text)
              (cursor.advance 3)
        | left + 1 =>
          if 0x80 ≤ octet && octet < 0xC0 then
            readTagText verbatim activity since left (Char.ofNat octet :: text) (cursor.advance 3)
          else .error ⟨.badTrailingOctet, cursor.mark, some (activity, since)⟩
termination_by cursor.rest.length
decreasing_by
  · exact Cursor.length_advance_lt _h Nat.one_pos
  · exact Cursor.length_advance_lt _h (by omega)
  · exact Cursor.length_advance_lt _h (by omega)

/-- Reads the text of a tag, which may not be empty unless `lead` stands before it. -/
def readNonemptyTagText (verbatim : Bool) (activity : Activity) (since : Mark)
    (lead : List Char) (cursor : Cursor) : Except Fault (List Char × Cursor) := do
  let (text, next) ← readTagText verbatim activity since 0 [] cursor
  if lead.isEmpty && text.isEmpty then
    throw ⟨.missingTagText, next.mark, some (activity, since)⟩
  else
    return (lead.drop 1 ++ text, next)

/-- Reads a handle: an exclamation mark, letters, and perhaps a second exclamation mark. -/
def readTagHandle (cursor : Cursor) : List Char × Cursor :=
  let letters := (cursor.rest.drop 1).takeWhile isNameLetter
  let next := cursor.advance (1 + letters.length)
  if next.sees '!' then ('!' :: letters ++ ['!'], next.advance 1) else ('!' :: letters, next)

/-- Whether a handle is closed by a second exclamation mark. -/
def isClosedHandle (handle : List Char) : Bool :=
  1 < handle.length && handle.getLast? == some '!'

/-- Reads a tag from its exclamation mark on: its handle and its text. A tag without a closed handle
belongs to the handle of one exclamation mark, and that mark alone is a text without handle. -/
def readTag (inFlow : Bool) (cursor : Cursor) :
    Except Fault ((List Char × List Char) × Cursor) := do
  let since := cursor.mark
  let (tag, next) ←
    if (cursor.advance 1).sees '<' then do
      let (text, next) ← readNonemptyTagText true .tagText since [] (cursor.advance 2)
      if next.sees '>' then pure (([], text), next.advance 1)
      else throw ⟨.missingTagEnd, next.mark, some (.tag, since)⟩
    else do
      let (handle, next) := readTagHandle cursor
      if isClosedHandle handle then do
        let (text, next) ← readNonemptyTagText false .tagText since [] next
        pure ((handle, text), next)
      else do
        let (text, next) ← readNonemptyTagText false .tagText since handle next
        pure (if text.isEmpty then ([], ['!']) else (['!'], text), next)
  if endsWord next.rest || (inFlow && next.sees ',') then return (tag, next)
  else throw ⟨.missingSpaceOrBreak, next.mark, some (.tag, since)⟩

end SuiteAudit.Yaml
