import SuiteAudit.Text.BreakClass
import SuiteAudit.Text.Columns
/-!
# Text — where a line may break

A character and the marks on it form a cluster, which is never broken. Whether a
line may break between two clusters follows from their classes, from the class of
the last cluster before the spaces between them, and from a cluster or two on
either side. The rules come in the order in which they decide: first those that
see through spaces, then the space itself, then those for two clusters side by
side.
-/

namespace SuiteAudit.Text

/-- A character and the marks on it. -/
structure Cluster where
  char : Char
  /-- The marks, the last one first. -/
  marks : List Char
  cls : BreakClass
  /-- Whether the character is as wide as an ideograph, or a narrow form of one that is. -/
  eastAsian : Bool
deriving Repr, DecidableEq, Inhabited

namespace BreakClass

/-- Classes that end a line. -/
def endsLine : BreakClass → Bool
  | mandatory | carriageReturn | lineFeed | nextLine => true
  | _ => false

/-- Classes that attach themselves to the character before. -/
def isMark : BreakClass → Bool
  | mark | joiner => true
  | _ => false

/-- Letters of any script that is written with spaces. -/
def isLetter : BreakClass → Bool
  | letter | hebrew => true
  | _ => false

/-- Ideographs and what is set like them. -/
def isIdeographic : BreakClass → Bool
  | ideograph | emojiBase | emojiModifier => true
  | _ => false

/-- Signs that go with a number. -/
def isNumberSign : BreakClass → Bool
  | beforeNumber | afterNumber => true
  | _ => false

/-- Parts of syllables and syllables of Hangul. -/
def isHangul : BreakClass → Bool
  | hangulLead | hangulVowel | hangulTail | hangulOpen | hangulClosed => true
  | _ => false

/-- Opening brackets. -/
def isOpening : BreakClass → Bool
  | opening | wideOpening => true
  | _ => false

/-- Closing brackets. -/
def isClosing : BreakClass → Bool
  | closing | closingParenthesis => true
  | _ => false

/-- Quotation marks. -/
def isQuotation : BreakClass → Bool
  | quotation | openingQuotation | closingQuotation => true
  | _ => false

/-- Hyphens of both kinds. -/
def isHyphen : BreakClass → Bool
  | hyphen | wordHyphen => true
  | _ => false

/-- What stands between the digits of a number. -/
def isSeparator : BreakClass → Bool
  | slash | listSeparator => true
  | _ => false

/-- Classes before which no line begins, spaces or not. -/
def neverBegins : BreakClass → Bool
  | closing | closingParenthesis | exclamation | slash | wordJoiner => true
  | _ => false

/-- Classes behind which a quotation mark opens. -/
def opensQuotation : BreakClass → Bool
  | glue | space | zeroWidthSpace => true
  | cls => cls.endsLine || cls.isOpening || cls.isQuotation

/-- Classes before which a quotation mark closes. -/
def closesQuotation : BreakClass → Bool
  | space | glue | zeroWidthSpace => true
  | cls => cls.endsLine || cls.neverBegins || cls.isQuotation || cls == listSeparator

/-- Classes behind which a hyphen begins a word. -/
def beginsWord : BreakClass → Bool
  | space | zeroWidthSpace | contingent | glue => true
  | cls => cls.endsLine

/-- Two classes that belong to one syllable of Hangul. -/
def isSyllable : BreakClass → BreakClass → Bool
  | hangulLead, b => b == hangulLead || b == hangulVowel || b == hangulOpen || b == hangulClosed
  | hangulVowel, b | hangulOpen, b => b == hangulVowel || b == hangulTail
  | hangulTail, b | hangulClosed, b => b == hangulTail
  | _, _ => false

/-- The heads of orthographic syllables. -/
def isSyllableHead : BreakClass → Bool
  | aksara | aksaraStart | dottedCircle => true
  | _ => false

/-- Letters written without spaces are letters for all that is beside them but each other, and so
is the circle that stands in for a letter. -/
def asLetter : BreakClass → BreakClass
  | unspaced | dottedCircle => letter
  | cls => cls

/-- Two classes that stay together as words and signs do. -/
def isWordlike (a b : BreakClass) : Bool :=
  (a.isLetter && (b.isLetter || b == digit || b.isNumberSign || b == opening)) ||
  (a == digit && (b.isLetter || b == opening)) ||
  (a.isNumberSign && b.isLetter) ||
  (a == beforeNumber && (b.isIdeographic || b.isHangul)) ||
  ((a.isIdeographic || a.isHangul) && b == afterNumber) ||
  (a == listSeparator && b.isLetter) ||
  (a == closingParenthesis && (b.isLetter || b == digit)) ||
  (a == slash && b == hebrew) ||
  (a == emojiBase && b == emojiModifier)

end BreakClass

open BreakClass

/-! ## Clusters -/

namespace Cluster

/-- The cluster of a character without marks. A mark on its own is a letter. -/
def ofChar (c : Char) : Cluster :=
  let cls := breakClass c
  if cls.isMark then ⟨c, [], letter, false⟩ else ⟨c, [], cls, isEastAsian c⟩

/-- Whether a mark can attach itself to a cluster. -/
def bears (cluster : Cluster) : Bool :=
  !(cluster.cls.endsLine || cluster.cls == space || cluster.cls == zeroWidthSpace)

/-- Whether a cluster ends with a joiner. -/
def isJoined (cluster : Cluster) : Bool :=
  breakClass (cluster.marks.headD cluster.char) == joiner

/-- The clusters of a text behind a first one that may still get marks. -/
def behind (cluster : Cluster) : List Char → List Cluster
  | [] => [cluster]
  | c :: cs =>
    if (breakClass c).isMark && cluster.bears then
      behind { cluster with marks := c :: cluster.marks } cs
    else cluster :: behind (ofChar c) cs

/-- The clusters of a text. -/
def ofText : List Char → List Cluster
  | [] => []
  | c :: cs => behind (ofChar c) cs

/-- The number of characters of a cluster. -/
def length (cluster : Cluster) : Nat :=
  cluster.marks.length + 1

end Cluster

/-! ## Languages written without spaces -/

/-- The languages that are told apart among those written without spaces. -/
inductive UnspacedLanguage where
  | thai
  | lao
  | burmese
  | khmer
  | other
deriving Repr, DecidableEq, Inhabited

/-- The language of a letter that is written without spaces. -/
def unspacedLanguage (c : Char) : UnspacedLanguage :=
  let n := c.toNat
  if 0xE01 ≤ n && n ≤ 0xE7F then .thai
  else if 0xE80 ≤ n && n ≤ 0xEFF then .lao
  else if (0x1000 ≤ n && n ≤ 0x109F) || (0xA9E0 ≤ n && n ≤ 0xA9FF) ||
      (0xAA60 ≤ n && n ≤ 0xAA7F) then .burmese
  else if (0x1780 ≤ n && n ≤ 0x17FF) || (0x19E0 ≤ n && n ≤ 0x19FF) then .khmer
  else .other

/-! ## The rules -/

/-- Whether a class is that of the first of some clusters. -/
def leads (clusters : List Cluster) (p : BreakClass → Bool) : Bool :=
  (clusters.head?).any fun cluster => p cluster.cls

/-- Whether the first of some clusters is East Asian. -/
def leadsEastAsian (clusters : List Cluster) : Bool :=
  (clusters.head?).any (·.eastAsian)

/-- Whether some clusters, the last one first, end with a number. -/
def endsNumber (before : List Cluster) : Bool :=
  leads (before.dropWhile (·.cls.isSeparator)) (· == digit)

/-- Whether a quotation mark that opens comes first of some clusters, the last one first. -/
def endsOpeningQuotation : List Cluster → Bool
  | [] => false
  | cluster :: earlier =>
    cluster.cls == openingQuotation && (earlier.isEmpty || leads earlier opensQuotation)

/-- Whether a quotation mark that closes comes next. -/
def startsClosingQuotation (next : Cluster) (after : List Cluster) : Bool :=
  next.cls == closingQuotation && (after.isEmpty || leads after closesQuotation)

/-- Whether no line may break before a cluster though spaces may come before it. `solid` is what
comes before the spaces, the last cluster first, and `spaced` says that there are some. -/
def clingsThroughSpaces (solid : List Cluster) (spaced : Bool) (next : Cluster)
    (after : List Cluster) : Bool :=
  next.cls.neverBegins || leads solid isOpening || endsOpeningQuotation solid ||
  startsClosingQuotation next after ||
  (next.cls == listSeparator && !(spaced && leads after (· == digit))) ||
  (leads solid isClosing && next.cls == nonstarter) ||
  (leads solid (· == breakAround) && next.cls == breakAround)

/-- Whether a quotation mark and what is beside it stay together: always, but for a mark that opens
before it or closes behind it in a text of East Asian width. -/
def clingsToQuotation (last : Cluster) (earlier : List Cluster) (next : Cluster)
    (after : List Cluster) : Bool :=
  (next.cls.isQuotation &&
    (next.cls != openingQuotation || !last.eastAsian || !leadsEastAsian after)) ||
  (last.cls.isQuotation &&
    (last.cls != closingQuotation || !next.eastAsian || !leadsEastAsian earlier))

/-- Whether a hyphen stays with what is behind it: at the front of a word, or behind a Hebrew
letter. -/
def hyphenClings (last : Cluster) (earlier : List Cluster) (next : Cluster) : Bool :=
  last.cls.isHyphen &&
    ((next.cls.asLetter.isLetter && (earlier.isEmpty || leads earlier beginsWord)) ||
      (leads earlier (· == hebrew) && next.cls != hebrew))

/-- Whether two clusters belong to one number. -/
def isNumeric (last : Cluster) (earlier : List Cluster) (next : Cluster) (after : List Cluster) :
    Bool :=
  (next.cls.isNumberSign &&
    ((last.cls.isClosing && endsNumber earlier) || endsNumber (last :: earlier))) ||
  (last.cls.isNumberSign && next.cls.isOpening &&
    (leads after (· == digit) ||
      (leads after (· == listSeparator) && leads (after.drop 1) (· == digit)))) ||
  (next.cls == digit &&
    (last.cls.isNumberSign || last.cls == hyphen || last.cls == listSeparator ||
      endsNumber (last :: earlier)))

/-- Whether two clusters belong to one orthographic syllable. -/
def isOrthographic (last : Cluster) (earlier : List Cluster) (next : Cluster)
    (after : List Cluster) : Bool :=
  (last.cls == aksaraPrefix && next.cls.isSyllableHead) ||
  (last.cls.isSyllableHead && (next.cls == virama || next.cls == finalVirama)) ||
  (last.cls == virama && leads earlier isSyllableHead &&
    (next.cls == aksara || next.cls == dottedCircle)) ||
  (last.cls.isSyllableHead && next.cls.isSyllableHead && leads after (· == finalVirama))

/-- Whether two regional indicators make a pair: an odd number of them ends with the last. -/
def isFlag (before : List Cluster) (next : Cluster) : Bool :=
  next.cls == regional && (before.takeWhile (·.cls == regional)).length % 2 == 1

/-- Whether two clusters side by side stay together for what they are. -/
def belongs (last : Cluster) (earlier : List Cluster) (next : Cluster) (after : List Cluster) :
    Bool :=
  hyphenClings last earlier next ||
  next.cls == breakAfter || next.cls.isHyphen || next.cls == nonstarter ||
  next.cls == inseparable || last.cls == breakBefore ||
  isNumeric last earlier next after || isSyllable last.cls next.cls ||
  isWordlike last.cls.asLetter next.cls.asLetter || isOrthographic last earlier next after ||
  isFlag (last :: earlier) next

/-- Whether a line may break between two clusters side by side. -/
def breaksDirect (last : Cluster) (earlier : List Cluster) (next : Cluster)
    (after : List Cluster) : Bool :=
  if clingsToQuotation last earlier next after then false
  else if last.cls == contingent || next.cls == contingent then true
  else !belongs last earlier next after

/-- Whether no line may break beside a character that glues. -/
def isGlued (last next : Cluster) : Bool :=
  last.cls == wordJoiner || last.cls == glue ||
  (next.cls == glue &&
    !(last.cls == space || last.cls == breakAfter || last.cls.isHyphen))

/-- Whether two letters side by side are both written without spaces. -/
def areUnspaced (last next : Cluster) : Bool :=
  last.cls == unspaced && last.marks.isEmpty && next.cls == unspaced

/-- Whether a line may break before a cluster, given what comes before it, the last cluster first,
and what comes after. -/
def mayBreak (before : List Cluster) (next : Cluster) (after : List Cluster) : Bool :=
  match before with
  | [] => false
  | last :: earlier =>
    let solid := before.dropWhile (·.cls == space)
    if last.cls.endsLine then !(last.cls == carriageReturn && next.cls == lineFeed)
    else if next.cls.endsLine || next.cls == space || next.cls == zeroWidthSpace then false
    else if leads solid (· == zeroWidthSpace) then true
    else if last.isJoined then false
    else if areUnspaced last next then unspacedLanguage last.char != unspacedLanguage next.char
    else if isGlued last next then false
    else if clingsThroughSpaces solid (last.cls == space) next after then false
    else if last.cls == space then true
    else breaksDirect last earlier next after

/-- For each of some clusters whether a line may break before it, given the clusters before them,
the last one first. -/
def breaksFrom (before : List Cluster) : List Cluster → List Bool
  | [] => []
  | next :: after => mayBreak before next after :: breaksFrom (next :: before) after

/-- For each character of a text whether a line may break before it. -/
def breaks (text : List Char) : List Bool :=
  let clusters := Cluster.ofText text
  (clusters.zip (breaksFrom [] clusters)).flatMap fun (cluster, first) =>
    first :: List.replicate (cluster.length - 1) false

end SuiteAudit.Text
