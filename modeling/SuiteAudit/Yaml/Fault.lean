import SuiteAudit.Yaml.Cursor
/-!
# YAML — what is wrong with a text

A fault names the problem and where it was met, and in most cases also what was
being read at that point and where that began.
-/

namespace SuiteAudit.Yaml

/-- What is wrong. -/
inductive Problem where
  | strayCharacter
  | missingColon
  | entryNotAllowed
  | keyNotAllowed
  | valueNotAllowed
  | unknownDirective
  | missingDirectiveName
  | badDirectiveName
  | missingLineEnd
  | missingVersionDot
  | longVersion
  | missingVersion
  | missingSpace
  | missingSpaceOrBreak
  | badAnchorName
  | missingTagEnd
  | missingTagMark
  | missingTagText
  | badEscapedOctet
  | badLeadingOctet
  | badTrailingOctet
  | zeroIndent
  | tabForIndent
  | documentMarker
  | endOfText
  | unknownEscape
  | missingHexDigit
  | badCodePoint
  | strayColon
  | tabBelowIndent
  | missingDocumentStart
  | repeatedVersion
  | unknownVersion
  | repeatedTagHandle
  | undefinedTagHandle
  | missingContent
  | missingEntry
  | missingKey
  | openSequence
  | openMapping
deriving Repr, DecidableEq, Inhabited

/-- The wording of a problem. -/
def Problem.text : Problem → String
  | strayCharacter => "found character that cannot start any token"
  | missingColon => "could not find expected ':'"
  | entryNotAllowed => "block sequence entries are not allowed in this context"
  | keyNotAllowed => "mapping keys are not allowed in this context"
  | valueNotAllowed => "mapping values are not allowed in this context"
  | unknownDirective => "found unknown directive name"
  | missingDirectiveName => "could not find expected directive name"
  | badDirectiveName => "found unexpected non-alphabetical character"
  | missingLineEnd => "did not find expected comment or line break"
  | missingVersionDot => "did not find expected digit or '.' character"
  | longVersion => "found extremely long version number"
  | missingVersion => "did not find expected version number"
  | missingSpace => "did not find expected whitespace"
  | missingSpaceOrBreak => "did not find expected whitespace or line break"
  | badAnchorName => "did not find expected alphabetic or numeric character"
  | missingTagEnd => "did not find the expected '>'"
  | missingTagMark => "did not find expected '!'"
  | missingTagText => "did not find expected tag URI"
  | badEscapedOctet => "did not find URI escaped octet"
  | badLeadingOctet => "found an incorrect leading UTF-8 octet"
  | badTrailingOctet => "found an incorrect trailing UTF-8 octet"
  | zeroIndent => "found an indentation indicator equal to 0"
  | tabForIndent => "found a tab character where an indentation space is expected"
  | documentMarker => "found unexpected document indicator"
  | endOfText => "found unexpected end of stream"
  | unknownEscape => "found unknown escape character"
  | missingHexDigit => "did not find expected hexadecimal number"
  | badCodePoint => "found invalid Unicode character escape code"
  | strayColon => "found unexpected ':'"
  | tabBelowIndent => "found a tab character that violates indentation"
  | missingDocumentStart => "did not find expected <document start>"
  | repeatedVersion => "found duplicate %YAML directive"
  | unknownVersion => "found incompatible YAML document"
  | repeatedTagHandle => "found duplicate %TAG directive"
  | undefinedTagHandle => "found undefined tag handle"
  | missingContent => "did not find expected node content"
  | missingEntry => "did not find expected '-' indicator"
  | missingKey => "did not find expected key"
  | openSequence => "did not find expected ',' or ']'"
  | openMapping => "did not find expected ',' or '\x7d'"

/-- What was being read when a problem was met. -/
inductive Activity where
  | nextToken
  | simpleKey
  | directive
  | versionDirective
  | tagDirective
  | tagDirectiveHandle
  | tagDirectiveHandleEnd
  | tagDirectiveText
  | anchor
  | aliasName
  | tag
  | tagText
  | blockScalar
  | quotedScalar
  | escape
  | plainScalar
  | node
  | blockNode
  | flowNode
  | blockSequence
  | blockMapping
  | flowSequence
  | flowMapping
deriving Repr, DecidableEq, Inhabited

/-- The wording of an activity. -/
def Activity.text : Activity → String
  | nextToken => "while scanning for the next token"
  | simpleKey => "while scanning a simple key"
  | directive => "while scanning a directive"
  | versionDirective => "while scanning a %YAML directive"
  | tagDirective => "while scanning a %TAG directive"
  | tagDirectiveHandle => "while scanning a tag directive"
  | tagDirectiveHandleEnd => "while parsing a tag directive"
  | tagDirectiveText => "while parsing a %TAG directive"
  | anchor => "while scanning an anchor"
  | aliasName => "while scanning an alias"
  | tag => "while scanning a tag"
  | tagText => "while parsing a tag"
  | blockScalar => "while scanning a block scalar"
  | quotedScalar => "while scanning a quoted scalar"
  | escape => "while parsing a quoted scalar"
  | plainScalar => "while scanning a plain scalar"
  | node => "while parsing a node"
  | blockNode => "while parsing a block node"
  | flowNode => "while parsing a flow node"
  | blockSequence => "while parsing a block collection"
  | blockMapping => "while parsing a block mapping"
  | flowSequence => "while parsing a flow sequence"
  | flowMapping => "while parsing a flow mapping"

/-- A problem, where it was met, and what was being read there since where. -/
structure Fault where
  problem : Problem
  mark : Mark
  during : Option (Activity × Mark)
deriving Repr, DecidableEq, Inhabited

/-- The wording of a fault. The place where the activity began is left out when it is the place of
the problem. -/
def Fault.message (fault : Fault) : String :=
  fault.problem.text ++ fault.mark.suffix ++
    match fault.during with
    | none => ""
    | some (activity, since) =>
      ", " ++ activity.text ++ if since = fault.mark then "" else since.suffix

end SuiteAudit.Yaml
