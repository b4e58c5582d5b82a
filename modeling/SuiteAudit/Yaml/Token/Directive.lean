import SuiteAudit.Yaml.Token
import SuiteAudit.Yaml.Token.Tag
/-!
# YAML — directives

A directive is a line that starts with a percent sign. One gives the version of
the format, the other a handle for tags and the text that it stands for.
-/

namespace SuiteAudit.Yaml

/-- The number of digits that a version number may have. -/
def versionDigits : Nat := 9

/-- Reads one of the two numbers of a version. -/
def readVersionNumber (since : Mark) (cursor : Cursor) : Except Fault (Nat × Cursor) :=
  let digits := cursor.rest.takeWhile Char.isDigit
  if versionDigits < digits.length then
    .error ⟨.longVersion, (cursor.advance versionDigits).mark, some (.versionDirective, since)⟩
  else if digits.isEmpty then
    .error ⟨.missingVersion, cursor.mark, some (.versionDirective, since)⟩
  else
    .ok (digits.foldl (fun n c => 10 * n + (c.toNat - '0'.toNat)) 0, cursor.advance digits.length)

/-- Reads a version: two numbers with a point between them. -/
def readVersion (since : Mark) (cursor : Cursor) : Except Fault (TokenKind × Cursor) := do
  let (major, cursor) ← readVersionNumber since (cursor.skipWhile isSpacing)
  if !cursor.sees '.' then
    throw ⟨.missingVersionDot, cursor.mark, some (.versionDirective, since)⟩
  let (minor, cursor) ← readVersionNumber since (cursor.advance 1)
  return (.version major minor, cursor)

/-- Reads a handle and the text that it stands for. -/
def readHandleDefinition (since : Mark) (cursor : Cursor) : Except Fault (TokenKind × Cursor) := do
  let cursor := cursor.skipWhile isSpacing
  if !cursor.sees '!' then
    throw ⟨.missingTagMark, cursor.mark, some (.tagDirectiveHandle, since)⟩
  let (handle, cursor) := readTagHandle cursor
  if 1 < handle.length && !isClosedHandle handle then
    throw ⟨.missingTagMark, cursor.mark, some (.tagDirectiveHandleEnd, since)⟩
  if !cursor.rest.head?.any isSpacing then
    throw ⟨.missingSpace, cursor.mark, some (.tagDirective, since)⟩
  let (lead, cursor) ←
    readNonemptyTagText true .tagDirectiveText since [] (cursor.skipWhile isSpacing)
  if !endsWord cursor.rest then
    throw ⟨.missingSpaceOrBreak, cursor.mark, some (.tagDirective, since)⟩
  return (.tagHandle handle lead, cursor)

/-- Reads a directive from its percent sign on, with the rest of its line. -/
def readDirective (cursor : Cursor) : Except Fault (TokenKind × Cursor) := do
  let since := cursor.mark
  let name := (cursor.rest.drop 1).takeWhile isNameLetter
  let next := cursor.advance (1 + name.length)
  if name.isEmpty then
    throw ⟨.missingDirectiveName, next.mark, some (.directive, since)⟩
  if !endsWord next.rest then
    throw ⟨.badDirectiveName, next.mark, some (.directive, since)⟩
  let (kind, next) ←
    if name = "YAML".toList then readVersion since next
    else if name = "TAG".toList then readHandleDefinition since next
    else throw ⟨.unknownDirective, next.mark, some (.directive, since)⟩
  let next := next.skipComment
  if !endsLine next.rest then
    throw ⟨.missingLineEnd, next.mark, some (.directive, since)⟩
  return (kind, next.skipBreak)

end SuiteAudit.Yaml
