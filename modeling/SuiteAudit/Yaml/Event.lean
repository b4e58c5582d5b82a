import SuiteAudit.Yaml.Token
/-!
# YAML — events

The events of a document are its nodes in order, with a begin and an end for each
collection. `Expectation` is what the grammar waits for at a point, a stack of
expectations is what is left of the document, and `step` serves the topmost one.
-/

namespace SuiteAudit.Yaml

/-- A node, or the end of a collection. A scalar carries its tag, if it has one, and whether it was
written plainly. -/
inductive Event where
  | aliasOf (name : List Char) (mark : Mark)
  | scalar (anchor : Option (List Char)) (tag : Option (List Char)) (text : List Char)
      (plain : Bool) (mark : Mark)
  | sequenceStart (anchor : Option (List Char)) (mark : Mark)
  | sequenceEnd
  | mappingStart (anchor : Option (List Char)) (mark : Mark)
  | mappingEnd
deriving Repr, DecidableEq, Inhabited

/-- The name by which a node can be referred to. -/
def Event.anchor? : Event → Option (List Char)
  | scalar anchor _ _ _ _ => anchor
  | sequenceStart anchor _ => anchor
  | mappingStart anchor _ => anchor
  | _ => none

/-- The empty scalar that stands where a node is left out. -/
def Event.blank (mark : Mark) : Event :=
  .scalar none none [] true mark

/-- What the grammar expects next. The collections remember where they began. -/
inductive Expectation where
  /-- The node of a document. -/
  | content
  /-- A node; in a block, the entries of a sequence may stand in for one where allowed. -/
  | node (block hanging : Bool)
  /-- An entry of a block sequence, or its end. -/
  | entry (since : Mark)
  /-- An entry of a sequence that hangs at the column of its mapping, or something else. -/
  | hangingEntry
  /-- A key of a block mapping, or its end. -/
  | key (since : Mark)
  /-- The value of a key in a block mapping. -/
  | value
  /-- An item of a flow sequence, or its end. -/
  | item (first : Bool) (since : Mark)
  /-- The key of a single pair in a flow sequence. -/
  | pairKey
  /-- The value of such a pair. -/
  | pairValue
  /-- The end of such a pair. -/
  | pairEnd
  /-- A key of a flow mapping, or its end. -/
  | flowKey (first : Bool) (since : Mark)
  /-- The value of a key in a flow mapping, or of one that has none. -/
  | flowValue (given : Bool)
deriving Repr, DecidableEq, Inhabited

/-- The text that each handle of a tag stands for. -/
abbrev TagHandles := List (List Char × List Char)

/-- The handles that need no directive. -/
def standardHandles : TagHandles :=
  [("!".toList, "!".toList), ("!!".toList, "tag:yaml.org,2002:".toList)]

/-- The tag that a handle and a text stand for. -/
def resolveTag? (handles : TagHandles) (handle text : List Char) : Option (List Char) :=
  if handle.isEmpty then some text else (handles.lookup handle).map (· ++ text)

/-- What was added by serving an expectation: the events, and the expectations and tokens that are
left. -/
structure Served where
  events : List Event
  expected : List Expectation
  tokens : List Token
deriving Inhabited

/-- Serving an expectation can fail for want of a token, or because a token does not fit. -/
abbrev Serving := Except (Option Fault) Served

/-- A token that does not fit. -/
def misfit (problem : Problem) (mark : Mark) (activity : Activity) (since : Mark) : Serving :=
  .error (some ⟨problem, mark, some (activity, since)⟩)

/-- The anchor and the tag in front of a node, in either order, each with where it begins. -/
def properties : List Token →
    Option (List Char × Mark) × Option ((List Char × List Char) × Mark) × List Token
  | ⟨.anchor a, m⟩ :: ⟨.tag h t, n⟩ :: rest => (some (a, m), some ((h, t), n), rest)
  | ⟨.tag h t, n⟩ :: ⟨.anchor a, m⟩ :: rest => (some (a, m), some ((h, t), n), rest)
  | ⟨.anchor a, m⟩ :: rest => (some (a, m), none, rest)
  | ⟨.tag h t, n⟩ :: rest => (none, some ((h, t), n), rest)
  | rest => (none, none, rest)

/-- Serves a node whose anchor, tag and beginning are known. -/
def serveContent (block hanging : Bool) (anchor tag : Option (List Char)) (since : Mark)
    (expected : List Expectation) (token : Token) (rest : List Token) : Serving :=
  match token.kind with
  | .blockEntry =>
    if hanging then
      .ok ⟨[.sequenceStart anchor since], .hangingEntry :: expected, token :: rest⟩
    else empty
  | .scalar text plain =>
    .ok ⟨[.scalar anchor (tag.filter (· ≠ ['!'])) text plain since], expected, rest⟩
  | .flowSequenceStart =>
    .ok ⟨[.sequenceStart anchor since], .item true token.mark :: expected, rest⟩
  | .flowMappingStart =>
    .ok ⟨[.mappingStart anchor since], .flowKey true token.mark :: expected, rest⟩
  | .blockSequenceStart =>
    if block then .ok ⟨[.sequenceStart anchor since], .entry token.mark :: expected, rest⟩
    else empty
  | .blockMappingStart =>
    if block then .ok ⟨[.mappingStart anchor since], .key token.mark :: expected, rest⟩
    else empty
  | _ => empty
where
  /-- A node of nothing but an anchor or a tag is an empty scalar; without either it is missing. -/
  empty : Serving :=
    if anchor.isSome || tag.isSome then
      .ok ⟨[.scalar anchor tag [] true since], expected, token :: rest⟩
    else
      misfit .missingContent token.mark (if block then .blockNode else .flowNode) since

/-- Serves a node. -/
def serveNode (handles : TagHandles) (block hanging : Bool) (expected : List Expectation)
    (tokens : List Token) : Serving :=
  match tokens with
  | [] => .error none
  | ⟨.aliasOf name, mark⟩ :: rest => .ok ⟨[.aliasOf name mark], expected, rest⟩
  | first :: _ =>
    match properties tokens with
    | (_, _, []) => .error none
    | (anchor, none, token :: rest) =>
      serveContent block hanging (anchor.map (·.1)) none first.mark expected token rest
    | (anchor, some ((handle, text), mark), token :: rest) =>
      match resolveTag? handles handle text with
      | none => misfit .undefinedTagHandle mark .node first.mark
      | some tag =>
        serveContent block hanging (anchor.map (·.1)) (some tag) first.mark expected token rest

/-- Whether a token shows that a node in a block mapping was left out. -/
def TokenKind.endsPair : TokenKind → Bool
  | .key | .value | .blockEnd => true
  | _ => false

/-- Whether a token shows that a node in a flow sequence was left out. -/
def TokenKind.endsItem : TokenKind → Bool
  | .flowEntry | .flowSequenceEnd => true
  | _ => false

/-- Whether a token shows that a node in a flow mapping was left out. -/
def TokenKind.endsFlowPair : TokenKind → Bool
  | .flowEntry | .flowMappingEnd => true
  | _ => false

/-- Whether a token shows that a document has no node. -/
def TokenKind.endsDocument : TokenKind → Bool
  | .version _ _ | .tagHandle _ _ | .documentStart | .documentEnd | .streamEnd => true
  | _ => false

/-- Serves a node, or an empty one if the token there shows that it was left out. -/
def serveOptional (handles : TagHandles) (leftOut : TokenKind → Bool) (block hanging : Bool)
    (expected : List Expectation) (tokens : List Token) : Serving :=
  match tokens with
  | [] => .error none
  | token :: _ =>
    if leftOut token.kind then .ok ⟨[.blank token.mark], expected, tokens⟩
    else serveNode handles block hanging expected tokens

/-- Serves the topmost expectation. -/
def Expectation.serve (handles : TagHandles) (expected : List Expectation)
    (tokens : List Token) : Expectation → Serving
  | content => serveOptional handles (·.endsDocument) true false expected tokens
  | node block hanging => serveNode handles block hanging expected tokens
  | entry since =>
    match tokens with
    | [] => .error none
    | ⟨.blockEntry, _⟩ :: rest =>
      serveOptional handles (fun kind => kind == .blockEntry || kind == .blockEnd) true false
        (.entry since :: expected) rest
    | ⟨.blockEnd, _⟩ :: rest => .ok ⟨[.sequenceEnd], expected, rest⟩
    | token :: _ => misfit .missingEntry token.mark .blockSequence since
  | hangingEntry =>
    match tokens with
    | [] => .error none
    | ⟨.blockEntry, _⟩ :: rest =>
      serveOptional handles (fun kind => kind == .blockEntry || kind.endsPair) true false
        (.hangingEntry :: expected) rest
    | _ => .ok ⟨[.sequenceEnd], expected, tokens⟩
  | key since =>
    match tokens with
    | [] => .error none
    | ⟨.key, _⟩ :: rest =>
      serveOptional handles (·.endsPair) true true (.value :: .key since :: expected) rest
    | ⟨.blockEnd, _⟩ :: rest => .ok ⟨[.mappingEnd], expected, rest⟩
    | token :: _ => misfit .missingKey token.mark .blockMapping since
  | value =>
    match tokens with
    | [] => .error none
    | ⟨.value, _⟩ :: rest => serveOptional handles (·.endsPair) true true expected rest
    | token :: _ => .ok ⟨[.blank token.mark], expected, tokens⟩
  | item first since =>
    match tokens with
    | [] => .error none
    | ⟨.flowSequenceEnd, _⟩ :: rest => .ok ⟨[.sequenceEnd], expected, rest⟩
    | token :: rest =>
      if first then serveItem since tokens
      else if token.kind == .flowEntry then serveItem since rest
      else misfit .openSequence token.mark .flowSequence since
  | pairKey =>
    match tokens with
    | [] => .error none
    | token :: rest =>
      if token.kind == .value || token.kind.endsItem then
        .ok ⟨[.blank token.mark], .pairValue :: expected, rest⟩
      else serveNode handles false false (.pairValue :: expected) tokens
  | pairValue =>
    match tokens with
    | [] => .error none
    | ⟨.value, _⟩ :: rest =>
      serveOptional handles (·.endsItem) false false (.pairEnd :: expected) rest
    | token :: _ => .ok ⟨[.blank token.mark], .pairEnd :: expected, tokens⟩
  | pairEnd =>
    match tokens with
    | [] => .error none
    | _ => .ok ⟨[.mappingEnd], expected, tokens⟩
  | flowKey first since =>
    match tokens with
    | [] => .error none
    | ⟨.flowMappingEnd, _⟩ :: rest => .ok ⟨[.mappingEnd], expected, rest⟩
    | token :: rest =>
      if first then serveFlowKey since tokens
      else if token.kind == .flowEntry then serveFlowKey since rest
      else misfit .openMapping token.mark .flowMapping since
  | flowValue given =>
    match tokens with
    | [] => .error none
    | token :: rest =>
      if given && token.kind == .value then
        serveOptional handles (·.endsFlowPair) false false expected rest
      else .ok ⟨[.blank token.mark], expected, tokens⟩
where
  /-- An item of a flow sequence, with the comma before it already passed. -/
  serveItem (since : Mark) (tokens : List Token) : Serving :=
    match tokens with
    | [] => .error none
    | ⟨.flowSequenceEnd, _⟩ :: rest => .ok ⟨[.sequenceEnd], expected, rest⟩
    | ⟨.key, mark⟩ :: rest =>
      .ok ⟨[.mappingStart none mark], .pairKey :: .item false since :: expected, rest⟩
    | _ => serveNode handles false false (.item false since :: expected) tokens
  /-- A key of a flow mapping, with the comma before it already passed. -/
  serveFlowKey (since : Mark) (tokens : List Token) : Serving :=
    match tokens with
    | [] => .error none
    | ⟨.flowMappingEnd, _⟩ :: rest => .ok ⟨[.mappingEnd], expected, rest⟩
    | ⟨.key, _⟩ :: rest =>
      serveOptional handles (fun kind => kind == .value || kind.endsFlowPair) false false
        (.flowValue true :: .flowKey false since :: expected) rest
    | _ =>
      serveNode handles false false (.flowValue false :: .flowKey false since :: expected) tokens

end SuiteAudit.Yaml
