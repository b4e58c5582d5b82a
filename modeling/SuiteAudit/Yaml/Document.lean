import SuiteAudit.Yaml.Event
import SuiteAudit.Yaml.Token.Scanner
/-!
# YAML — the first document of a text

A text is read as its first document: the events of that document as far as they
could be read, the fault at which reading stopped, and whether anything but the
end follows. Nothing is decided here about what the events may be, so a reader
of events meets them in order and learns of the fault only where they end.
-/

namespace SuiteAudit.Yaml

/-- Why a document could not be read to its end. -/
inductive DocumentFault where
  /-- A character that may not stand in a text, by the number of bytes before it. -/
  | controlCharacter (offset : Nat)
  /-- The text does not follow the grammar. -/
  | malformed (fault : Fault)
  /-- An alias of a name that no node before it has. -/
  | unknownAnchor (mark : Mark)
deriving Repr, DecidableEq, Inhabited

/-- The nodes of a document in order. An alias refers to the node by its number among the names. -/
inductive NodeEvent where
  | aliasOf (number : Nat)
  | scalar (tag : Option (List Char)) (text : List Char) (plain : Bool) (mark : Mark)
  | sequenceStart (mark : Mark)
  | sequenceEnd
  | mappingStart (mark : Mark)
  | mappingEnd
deriving Repr, DecidableEq, Inhabited

/-- The first document of a text: its nodes as far as they were read, the named ones by number, the
fault that ended it, and whether more than the end of the text follows. -/
structure Document where
  events : List NodeEvent
  named : Array NodeEvent
  fault : Option DocumentFault
  followed : Bool
deriving Inhabited

/-- The characters that may stand in a text. -/
def isAllowed (c : Char) : Bool :=
  c == '\t' || c == '\n' || c == '\r' || (' ' ≤ c && c ≤ '~') || c == '\x85' ||
  (0xA0 ≤ c.toNat && c.toNat ≤ 0xFFFD) || 0x10000 ≤ c.toNat

/-- The number of bytes before the first character that may not stand in a text. -/
def firstDisallowed? (offset : Nat) : List Char → Option Nat
  | [] => none
  | c :: cs => if isAllowed c then firstDisallowed? (offset + c.utf8Size) cs else some offset

/-- What the directives in front of a document give: whether there was a version, and the handles.
-/
structure Directives where
  versioned : Bool
  handles : TagHandles
deriving Inhabited

/-- The versions of the format that are read. -/
def isKnownVersion (major minor : Nat) : Bool :=
  major == 1 && (minor == 1 || minor == 2)

/-- Takes in the directives in front of a document. -/
def readDirectives (known : Directives) : List Token → Except Fault (Directives × List Token)
  | ⟨.version major minor, mark⟩ :: rest =>
    if known.versioned then .error ⟨.repeatedVersion, mark, none⟩
    else if !isKnownVersion major minor then .error ⟨.unknownVersion, mark, none⟩
    else readDirectives { known with versioned := true } rest
  | ⟨.tagHandle handle lead, mark⟩ :: rest =>
    if (known.handles.lookup handle).isSome then .error ⟨.repeatedTagHandle, mark, none⟩
    else readDirectives { known with handles := known.handles ++ [(handle, lead)] } rest
  | rest => .ok (known, rest)

/-- Where a document begins. -/
inductive Opening where
  /-- There is none. -/
  | nothing
  /-- Here, with these handles and expecting this. -/
  | document (handles : TagHandles) (expected : Expectation) (tokens : List Token)
deriving Inhabited

/-- Finds the beginning of the first document. A document needs a marker only behind directives. -/
def openDocument (tokens : List Token) : Except (Option Fault) Opening :=
  match tokens with
  | [] => .error none
  | ⟨.streamEnd, _⟩ :: _ => .ok .nothing
  | token :: _ =>
    if token.kind.endsDocument && token.kind != .documentEnd then
      match readDirectives ⟨false, []⟩ tokens with
      | .error fault => .error (some fault)
      | .ok (_, []) => .error none
      | .ok (directives, ⟨.documentStart, _⟩ :: rest) =>
        .ok (.document (directives.handles ++ standardHandles) .content rest)
      | .ok (_, token :: _) => .error (some ⟨.missingDocumentStart, token.mark, none⟩)
    else .ok (.document standardHandles (.node true false) tokens)

/-- Serves expectations until none is left: the events, and the tokens that are left or why the
document does not go on. Every token gives rise to a few events at most, which bounds the number of
steps. -/
def serveAll (fuel : Nat) (handles : TagHandles) (expected : List Expectation)
    (tokens : List Token) : List Event × Except (Option Fault) (List Token) :=
  match fuel, expected with
  | 0, _ => ([], .error none)
  | _, [] => ([], .ok tokens)
  | fuel + 1, top :: expected =>
    match top.serve handles expected tokens with
    | .error fault => ([], .error fault)
    | .ok served =>
      let (events, outcome) := serveAll fuel handles served.expected served.tokens
      (served.events ++ events, outcome)

/-- The most steps that a list of tokens can take. -/
def serveBound (tokens : List Token) : Nat :=
  5 * tokens.length + 8

/-- The names given so far, each with its number, and the nodes by number. A name that is given
again gets the number of names so far, which the next new name gets too. -/
structure Names where
  numbers : List (List Char × Nat)
  nodes : Array NodeEvent
deriving Inhabited

/-- Gives a name to a node. -/
def Names.give (names : Names) (name : List Char) (node : NodeEvent) : Names :=
  let number := names.numbers.length
  ⟨(name, number) :: names.numbers.filter (·.1 ≠ name),
    if number < names.nodes.size then names.nodes.setIfInBounds number node
    else names.nodes.push node⟩

/-- The node event of a grammar event that is no alias. -/
def NodeEvent.ofEvent : Event → NodeEvent
  | .aliasOf _ _ => .aliasOf 0
  | .scalar _ tag text plain mark => .scalar tag text plain mark
  | .sequenceStart _ mark => .sequenceStart mark
  | .sequenceEnd => .sequenceEnd
  | .mappingStart _ mark => .mappingStart mark
  | .mappingEnd => .mappingEnd

/-- Resolves the aliases of a document, up to the first one that has no node. -/
def resolveAliases (names : Names) : List Event → List NodeEvent × Array NodeEvent × Option Mark
  | [] => ([], names.nodes, none)
  | .aliasOf name mark :: events =>
    match names.numbers.lookup name with
    | none => ([], names.nodes, some mark)
    | some number =>
      let (nodes, named, fault) := resolveAliases names events
      (.aliasOf number :: nodes, named, fault)
  | event :: events =>
    let node := NodeEvent.ofEvent event
    let names := match event.anchor? with
      | some name => names.give name node
      | none => names
    let (nodes, named, fault) := resolveAliases names events
    (node :: nodes, named, fault)

/-- Whether tokens behind a document are anything but its markers and the end of the text. -/
def isFollowed (tokens : List Token) : Bool :=
  match tokens.dropWhile fun token => token.kind == .documentEnd with
  | [⟨.streamEnd, _⟩] => false
  | _ => true

/-- The fault of a document whose grammar stopped: the fault of the grammar, or the fault of the
text where the grammar wanted a token that could not be read. -/
def stoppedBy (scanFault : Option Fault) (stop : Option Fault) : Option DocumentFault :=
  (stop.or scanFault).map .malformed

/-- The events of a text that has a document, with what follows it. -/
def readEvents (handles : TagHandles) (expected : Expectation) (tokens : List Token)
    (scanFault : Option Fault) : Document :=
  let (events, outcome) := serveAll (serveBound tokens) handles [expected] tokens
  let (nodes, named, unknown) := resolveAliases ⟨[], #[]⟩ events
  match unknown, outcome with
  | some mark, _ => ⟨nodes, named, some (.unknownAnchor mark), true⟩
  | none, .error stop => ⟨nodes, named, stoppedBy scanFault stop, true⟩
  | none, .ok [] => ⟨nodes, named, stoppedBy scanFault none, true⟩
  | none, .ok rest => ⟨nodes, named, none, isFollowed rest⟩

/-- Reads the first document of a text. A text without documents reads as one empty node. -/
def Document.ofText (text : List Char) : Document :=
  match firstDisallowed? 0 text with
  | some offset => ⟨[], #[], some (.controlCharacter offset), true⟩
  | none =>
    let (tokens, scanFault) := scan text
    match openDocument tokens with
    | .error stop => ⟨[], #[], stoppedBy scanFault stop, true⟩
    | .ok .nothing => ⟨[.scalar none [] true .start], #[], none, false⟩
    | .ok (.document handles expected rest) => readEvents handles expected rest scanFault

end SuiteAudit.Yaml
