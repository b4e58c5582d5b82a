import SuiteAudit.Yaml.Document
import SuiteAudit.Yaml.Scalar
/-!
# YAML — a list of texts

A document that is a sequence of scalars is a list of texts. Every scalar counts
as its text, whatever it would stand for elsewhere, and a document without
content is the empty list. The nodes are looked at in order, so a node of a wrong
kind is reported before a fault further on in the text.
-/

namespace SuiteAudit.Yaml

/-- A node that cannot be a text. -/
inductive Collection where
  | sequence
  | mapping
deriving Repr, DecidableEq, Inhabited

/-- The word for a collection. -/
def Collection.word : Collection → String
  | sequence => "sequence"
  | mapping => "map"

/-- Why a text is not a list of texts. -/
inductive ListFault where
  /-- The document could not be read. -/
  | document (fault : DocumentFault)
  /-- Another document follows the first. -/
  | moreDocuments
  /-- The document is a mapping. -/
  | rootMapping (mark : Mark)
  /-- The document is a scalar. -/
  | rootScalar (value : Scalar) (mark : Mark)
  /-- The document is a scalar that is not of the kind its tag asks for. -/
  | rootMistagged (text : List Char) (kind : String) (mark : Mark)
  /-- An entry of the sequence is a collection. -/
  | entryCollection (index : Nat) (found : Collection) (mark : Mark)
deriving Repr, DecidableEq, Inhabited

/-- The wording of a fault of a document. -/
def DocumentFault.message : DocumentFault → String
  | controlCharacter offset =>
    "control characters are not allowed" ++
      if offset = 0 then "" else " at position " ++ toString offset
  | malformed fault => fault.message
  | unknownAnchor mark => "unknown anchor" ++ mark.suffix

/-- The wording of a fault. -/
def ListFault.message : ListFault → String
  | document fault => fault.message
  | moreDocuments => "deserializing from YAML containing more than one document is not supported"
  | rootMapping mark => "invalid type: map, expected a sequence" ++ mark.suffix
  | rootScalar value mark =>
    "invalid type: " ++ value.describe ++ ", expected a sequence" ++ mark.suffix
  | rootMistagged text kind mark =>
    "invalid value: string " ++ Text.quote text ++ ", expected " ++ kind ++ mark.suffix
  | entryCollection index found mark =>
    ".[" ++ toString index ++ "]: invalid type: " ++ found.word ++ ", expected a string" ++
      mark.suffix

/-- What ends the reading where the nodes of a document end. -/
def Document.endFault (doc : Document) : Except ListFault Unit :=
  match doc.fault with
  | some fault => .error (.document fault)
  | none => if doc.followed then .error .moreDocuments else .ok ()

/-- What ends the reading where a node is needed and none is left. A document without a fault is
never short of nodes. -/
def Document.shortFault (doc : Document) : ListFault :=
  match doc.fault with
  | some fault => .document fault
  | none => .moreDocuments

/-- The text of an entry. -/
def entryText (index : Nat) : NodeEvent → Except ListFault (List Char)
  | .scalar _ text _ _ => .ok text
  | .sequenceStart mark => .error (.entryCollection index .sequence mark)
  | .mappingStart mark => .error (.entryCollection index .mapping mark)
  | _ => .ok []

/-- The node that an entry is or refers to. -/
def Document.target (doc : Document) : NodeEvent → NodeEvent
  | .aliasOf number => doc.named.getD number .sequenceEnd
  | event => event

/-- The texts of the entries from an index on, up to the end of the sequence. -/
def Document.entries (doc : Document) (index : Nat) :
    List NodeEvent → Except ListFault (List (List Char))
  | [] => .error doc.shortFault
  | .sequenceEnd :: _ => .ok []
  | event :: events => do
    let text ← entryText index (doc.target event)
    let texts ← doc.entries (index + 1) events
    return text :: texts

/-- The texts of a document. -/
def Document.texts (doc : Document) : Except ListFault (List (List Char)) :=
  match doc.events with
  | .sequenceStart _ :: events => doc.entries 0 events
  | .mappingStart mark :: _ => .error (.rootMapping mark)
  | .scalar tag text plain mark :: _ =>
    if plain && text.isEmpty then .ok []
    else
      match Scalar.resolve tag text plain with
      | .ok value => .error (.rootScalar value mark)
      | .error kind => .error (.rootMistagged text kind mark)
  | _ => .error doc.shortFault

/-- Reads a text as a list of texts. -/
def readTextList (text : List Char) : Except ListFault (List (List Char)) := do
  let doc := Document.ofText text
  let texts ← doc.texts
  doc.endFault
  return texts

end SuiteAudit.Yaml
