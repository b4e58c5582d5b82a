import SuiteAudit.Text.Utf8
/-!
# Text — what a terminal shows

A terminal shows the characters it is sent until an escape character begins a
command. What it expects next is a state: a command may be a single character,
may open with a bracket and run to its first letter, or may carry a text of its
own. Of a command nothing is shown but the blanks that end it early. A text made
of plain and of styled parts is shown part by part: a style is set and put back by
commands, so whatever a styled part leaves open ends with the part, while a plain
part goes on where the plain part before it stopped.
-/

namespace SuiteAudit.Text

namespace Terminal

/-- What a terminal expects next. -/
inductive State where
  /-- Characters that it shows. -/
  | text
  /-- The character that tells which command this is. -/
  | escape
  /-- The last character of a command with more than one. -/
  | choice
  /-- The letter that ends a control command. -/
  | control
  /-- The head of a command for a device. -/
  | device
  /-- The numbers in the head of a command for a device. -/
  | deviceNumbers
  /-- The signs behind those numbers. -/
  | deviceSigns
  /-- The data for a device. -/
  | deviceData
  /-- A text for the terminal itself, which a bell ends. -/
  | title
  /-- A text for a program. -/
  | message
deriving Repr, DecidableEq, Inhabited

/-- A control that moves the place of writing like a blank does. -/
def isLayout (c : Char) : Bool :=
  c == '\t' || c == '\n' || c == '\x0c' || c == '\r'

/-- A control that ends any command. -/
def isCancel (c : Char) : Bool :=
  c == '\x18' || c == '\x1a'

/-- Whether a character is one of those from the first to the last. -/
def isFrom (first last c : Char) : Bool :=
  first ≤ c && c ≤ last

/-- Whether the terminator of texts for others is among the bytes of a character beyond ASCII. -/
def hidesTerminator (c : Char) : Bool :=
  0x80 ≤ c.toNat && (utf8Bytes c.toString).contains 0x9C

/-- The state behind the character that tells which command this is. -/
def opened (c : Char) : State :=
  if c == '[' then .control
  else if c == ']' then .title
  else if c == 'P' then .device
  else if c == 'X' || c == '^' || c == '_' then .message
  else if isFrom ' ' '/' c then .choice
  else if isLayout c || isFrom '0' '~' c then .text
  else .escape

/-- The state behind a character in the head of a command for a device, where digits lead to one
state and signs to another. -/
def devised (state digits : State) (c : Char) : State :=
  if isFrom '@' '~' c then .deviceData
  else if isFrom ' ' '/' c then .deviceSigns
  else if isFrom '0' '?' c then digits
  else state

/-- The state behind a character. -/
def State.next (state : State) (c : Char) : State :=
  if c == '\x1b' then escape
  else if isCancel c then text
  else
    match state with
    | text => text
    | escape => opened c
    | choice => if isLayout c || isFrom '0' '~' c then text else choice
    | control => if isLayout c || isFrom '@' '~' c then text else control
    | device => devised device deviceNumbers c
    | deviceNumbers =>
      devised deviceNumbers (if isFrom '<' '?' c then deviceData else deviceNumbers) c
    | deviceSigns => devised deviceSigns deviceData c
    | deviceData => if hidesTerminator c then text else deviceData
    | title => if c == '\x07' then text else title
    | message => if hidesTerminator c then text else message

/-- Whether a character is shown in a state. -/
def State.shows (state : State) (c : Char) : Bool :=
  match state with
  | text => isLayout c || isFrom ' ' '~' c || 0x80 ≤ c.toNat
  | escape | choice | control => isLayout c
  | _ => false

/-- The state behind some characters. -/
def State.after (state : State) (cs : List Char) : State :=
  cs.foldl next state

/-- What is shown of some characters. -/
def State.shown (state : State) : List Char → List Char
  | [] => []
  | c :: cs =>
    let later := (state.next c).shown cs
    if state.shows c then c :: later else later

end Terminal

/-- What a terminal shows of a text. -/
def shown (text : String) : String :=
  String.ofList (Terminal.State.text.shown text.toList)

/-- A part of a text for a terminal. -/
inductive Part where
  | plain (text : String)
  /-- A part with a style of its own. -/
  | styled (text : String)
deriving Repr, DecidableEq, Inhabited

/-- What is shown of some parts, where the first goes on in a state if it is plain. -/
def shownFrom (state : Terminal.State) : List Part → List Char
  | [] => []
  | .plain text :: parts =>
    state.shown text.toList ++ shownFrom (state.after text.toList) parts
  | .styled text :: parts => Terminal.State.text.shown text.toList ++ shownFrom .text parts

/-- What a terminal shows of the parts of a text. -/
def shownParts (parts : List Part) : String :=
  String.ofList (shownFrom .text parts)

end SuiteAudit.Text
