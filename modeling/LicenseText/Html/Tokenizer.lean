import LicenseText.Html.Reference
import LicenseText.Html.Token

/-!
# The HTML tokenizer

A document is read character by character. A carriage return, alone or in front of a
line feed, is read as a line feed. The mode says what the characters read so far have
opened; no document is refused, and what departs from the grammar is read as text or
as a comment.

The line counter moves on when a line feed is read, before the tokens that it
completes are delivered. Two places differ: a reference ends before the character
behind it is counted, and line feeds between the equals sign and the value of an
attribute are not counted at all.
-/

namespace LicenseText

namespace Html

def isTagSpace (c : Char) : Bool := c == '\t' || c == '\n' || c == '\x0c' || c == ' '

/-- A tag of which the name has begun. The name stands reversed, in lower case. -/
structure OpenTag where
  isEnd : Bool
  name : Text
  deriving Repr, DecidableEq

inductive TagPlace where
  | name
  | beforeAttribute
  | attribute
  | afterAttribute
  | beforeValue
  /-- A value in the given quotes, or in none. -/
  | value (quote : Option Char)
  | afterValue
  | slash
  deriving Repr, DecidableEq

/-- The places inside a comment, told by the characters that may belong to its end. -/
inductive CommentPlace where
  | start
  | startDash
  | inside
  | endDash
  | endDashes
  | endBang
  deriving Repr, DecidableEq

/-- What the characters read so far have opened. Texts in modes stand reversed. -/
inductive Mode where
  | data
  | raw (kind : RawKind)
  /-- A reference, between tags or in text of the given kind. -/
  | reference (within : Option RawKind) (reference : Reference)
  | tagOpen
  | endTagOpen
  | tag (tag : OpenTag) (place : TagPlace)
  | rawLess (kind : RawKind)
  | rawEndOpen (kind : RawKind)
  /-- What may be the name of the end tag of an element with raw text. -/
  | rawEndName (kind : RawKind) (seen : Text)
  /-- Behind `<!` in a script, and the number of dashes behind it. -/
  | escapeStart (dashes : Nat)
  /-- Behind a dash, or several, in escaped script. -/
  | escapedDash (kind : RawKind) (several : Bool)
  /-- What may be the name of an inner script element. -/
  | doubleEscapeStart (seen : Text)
  | doubleEscapeEnd (seen : Text)
  /-- Behind `<!`, with the characters that may open a comment or document type. -/
  | declarationOpen (seen : Text)
  | comment (place : CommentPlace) (text : Text)
  | bogusComment (text : Text)
  | documentType
  deriving Repr, DecidableEq

/-- A document read in part. -/
structure Tokenizer where
  mode : Mode
  line : Nat
  /-- Whether the last character was a carriage return. -/
  afterReturn : Bool
  /-- The name of the last start tag. -/
  lastStart : Option Text
  /-- The tokens delivered, newest first. -/
  tokens : List LocatedToken
  deriving Repr, DecidableEq

namespace Tokenizer

def start : Tokenizer := ⟨.data, 1, false, none, []⟩

def enter (t : Tokenizer) (mode : Mode) : Tokenizer := { t with mode := mode }

def deliver (t : Tokenizer) (token : Token) : Tokenizer :=
  { t with tokens := ⟨token, t.line⟩ :: t.tokens }

def text (t : Tokenizer) (chunk : Text) : Tokenizer := t.deliver (.text chunk)

/-- Delivers a comment whose text stands reversed, and goes on between tags. -/
def comment (t : Tokenizer) (reversed : Text) : Tokenizer :=
  (t.deliver (.comment reversed.reverse)).enter .data

/-- Delivers a tag. The content of some elements is read as raw text. -/
def tag (t : Tokenizer) (tag : OpenTag) (selfClosing : Bool) : Tokenizer :=
  let name := tag.name.reverse
  if tag.isEnd then (t.deliver (.endTag name)).enter .data
  else
    let t := { t.deliver (.startTag name selfClosing) with lastStart := some name }
    match if selfClosing then none else RawKind.ofElement? name with
    | some kind => t.enter (.raw kind)
    | none => t.enter .data

/-- The mode in which a reference stands. -/
def around : Option RawKind → Mode
  | none => .data
  | some kind => .raw kind

/-! ## The modes -/

/-- Text between tags. -/
def readData (t : Tokenizer) (c : Char) : Tokenizer :=
  if c = '&' then t.enter (.reference none .start)
  else if c = '<' then t.enter .tagOpen
  else if c = '\x00' then (t.deliver .null).enter .data
  else (t.text [c]).enter .data

/-- A character that may not occur in text is replaced. -/
def shown (c : Char) : Char := if c = '\x00' then replacement else c

/-- Raw text. -/
def readRaw (t : Tokenizer) (kind : RawKind) (c : Char) : Tokenizer :=
  match kind with
  | .rcdata =>
    if c = '&' then t.enter (.reference (some .rcdata) .start)
    else if c = '<' then t.enter (.rawLess .rcdata)
    else (t.text [shown c]).enter (.raw .rcdata)
  | .rawtext | .script =>
    if c = '<' then t.enter (.rawLess kind)
    else (t.text [shown c]).enter (.raw kind)
  | .escaped =>
    if c = '-' then (t.text [c]).enter (.escapedDash .escaped false)
    else if c = '<' then t.enter (.rawLess .escaped)
    else (t.text [shown c]).enter (.raw .escaped)
  | .doubleEscaped =>
    if c = '-' then (t.text [c]).enter (.escapedDash .doubleEscaped false)
    else if c = '<' then (t.text [c]).enter (.rawLess .doubleEscaped)
    else (t.text [shown c]).enter (.raw .doubleEscaped)

/-- Behind a `<` between tags. -/
def readTagOpen (t : Tokenizer) (c : Char) : Tokenizer :=
  if c = '!' then t.enter (.declarationOpen [])
  else if c = '/' then t.enter .endTagOpen
  else if c = '?' then (t.deliver .malformed).enter (.bogusComment ['?'])
  else if c.isAlpha then t.enter (.tag ⟨false, [c.toLower]⟩ .name)
  else ((t.deliver .malformed).text ['<']).readData c

/-- Behind `</` between tags. -/
def readEndTagOpen (t : Tokenizer) (c : Char) : Tokenizer :=
  if c = '>' then (t.deliver .malformed).enter .data
  else if c.isAlpha then t.enter (.tag ⟨true, [c.toLower]⟩ .name)
  else (t.deliver .malformed).enter (.bogusComment [shown c])

/-- In front of an attribute, or of what ends the tag. -/
def readBeforeAttribute (t : Tokenizer) (tag : OpenTag) (c : Char) : Tokenizer :=
  if isTagSpace c then t.enter (.tag tag .beforeAttribute)
  else if c = '/' then t.enter (.tag tag .slash)
  else if c = '>' then t.tag tag false
  else t.enter (.tag tag .attribute)

/-- In a value that no quotes enclose. -/
def readBareValue (t : Tokenizer) (tag : OpenTag) (c : Char) : Tokenizer :=
  if isTagSpace c then t.enter (.tag tag .beforeAttribute)
  else if c = '>' then t.tag tag false
  else t.enter (.tag tag (.value none))

/-- Inside a tag. -/
def readTag (t : Tokenizer) (tag : OpenTag) (place : TagPlace) (c : Char) : Tokenizer :=
  match place with
  | .name =>
    if isTagSpace c then t.enter (.tag tag .beforeAttribute)
    else if c = '/' then t.enter (.tag tag .slash)
    else if c = '>' then t.tag tag false
    else t.enter (.tag { tag with name := shown c.toLower :: tag.name } .name)
  | .beforeAttribute => t.readBeforeAttribute tag c
  | .attribute =>
    if isTagSpace c then t.enter (.tag tag .afterAttribute)
    else if c = '/' then t.enter (.tag tag .slash)
    else if c = '=' then t.enter (.tag tag .beforeValue)
    else if c = '>' then t.tag tag false
    else t.enter (.tag tag .attribute)
  | .afterAttribute =>
    if isTagSpace c then t.enter (.tag tag .afterAttribute)
    else if c = '/' then t.enter (.tag tag .slash)
    else if c = '=' then t.enter (.tag tag .beforeValue)
    else if c = '>' then t.tag tag false
    else t.enter (.tag tag .attribute)
  | .beforeValue =>
    if isTagSpace c then t.enter (.tag tag .beforeValue)
    else if c = '"' ∨ c = '\'' then t.enter (.tag tag (.value (some c)))
    else if c = '>' then t.tag tag false
    else t.readBareValue tag c
  | .value (some quote) =>
    if c = quote then t.enter (.tag tag .afterValue)
    else t.enter (.tag tag (.value (some quote)))
  | .value none => t.readBareValue tag c
  | .afterValue => t.readBeforeAttribute tag c
  | .slash => if c = '>' then t.tag tag true else t.readBeforeAttribute tag c

/-- Behind a `<` in raw text. -/
def readRawLess (t : Tokenizer) (kind : RawKind) (c : Char) : Tokenizer :=
  match kind with
  | .doubleEscaped =>
    if c = '/' then (t.text [c]).enter (.doubleEscapeEnd [])
    else t.readRaw .doubleEscaped c
  | .escaped =>
    if c = '/' then t.enter (.rawEndOpen .escaped)
    else if c.isAlpha then (t.text ['<', c]).enter (.doubleEscapeStart [c.toLower])
    else (t.text ['<']).readRaw .escaped c
  | .script =>
    if c = '/' then t.enter (.rawEndOpen .script)
    else if c = '!' then (t.text ['<', '!']).enter (.escapeStart 0)
    else (t.text ['<']).readRaw .script c
  | .rcdata | .rawtext =>
    if c = '/' then t.enter (.rawEndOpen kind)
    else (t.text ['<']).readRaw kind c

/-- Behind `</` in raw text. -/
def readRawEndOpen (t : Tokenizer) (kind : RawKind) (c : Char) : Tokenizer :=
  if c.isAlpha then t.enter (.rawEndName kind [c])
  else (t.text ['<', '/']).readRaw kind c

/-- In what may be the end tag of an element with raw text. It is one if it has the
name of the last start tag. -/
def readRawEndName (t : Tokenizer) (kind : RawKind) (seen : Text) (c : Char) :
    Tokenizer :=
  let tag : OpenTag := ⟨true, seen.map Char.toLower⟩
  let closes := t.lastStart == some tag.name.reverse
  if closes && isTagSpace c then t.enter (.tag tag .beforeAttribute)
  else if closes && c == '/' then t.enter (.tag tag .slash)
  else if closes && c == '>' then t.tag tag false
  else if c.isAlpha then t.enter (.rawEndName kind (c :: seen))
  else (t.text ('<' :: '/' :: seen.reverse)).readRaw kind c

/-- Behind `<!` in a script. -/
def readEscapeStart (t : Tokenizer) (dashes : Nat) (c : Char) : Tokenizer :=
  if c = '-' then
    (t.text [c]).enter (if dashes = 0 then .escapeStart 1 else .escapedDash .escaped true)
  else t.readRaw .script c

/-- Behind a dash, or several, in escaped script. -/
def readEscapedDash (t : Tokenizer) (kind : RawKind) (several : Bool) (c : Char) :
    Tokenizer :=
  if c = '-' then (t.text [c]).enter (.escapedDash kind true)
  else if several && c == '>' then (t.text [c]).enter (.raw .script)
  else t.readRaw kind c

/-- Whether a character ends the name of an inner script element. -/
def endsInnerName (c : Char) : Bool := isTagSpace c || c == '/' || c == '>'

/-- In what may be the name of the start tag of an inner script element. -/
def readDoubleEscapeStart (t : Tokenizer) (seen : Text) (c : Char) : Tokenizer :=
  if endsInnerName c then
    (t.text [c]).enter
      (.raw (if seen.reverse = "script".toList then .doubleEscaped else .escaped))
  else if c.isAlpha then (t.text [c]).enter (.doubleEscapeStart (c.toLower :: seen))
  else t.readRaw .escaped c

/-- In what may be the name of the end tag of an inner script element. -/
def readDoubleEscapeEnd (t : Tokenizer) (seen : Text) (c : Char) : Tokenizer :=
  if endsInnerName c then
    (t.text [c]).enter
      (.raw (if seen.reverse = "script".toList then .escaped else .doubleEscaped))
  else if c.isAlpha then (t.text [c]).enter (.doubleEscapeEnd (c.toLower :: seen))
  else t.readRaw .doubleEscaped c

/-- In a comment that its delimiters do not enclose. -/
def readBogusComment (t : Tokenizer) (text : Text) (c : Char) : Tokenizer :=
  if c = '>' then t.comment text else t.enter (.bogusComment (shown c :: text))

/-- Behind `<!`. The characters seen so far open a comment or a document type, or they
belong to a bogus comment. -/
def readDeclarationOpen (t : Tokenizer) (seen : Text) (c : Char) : Tokenizer :=
  let opening := (c :: seen).reverse
  if opening = "--".toList then t.enter (.comment .start [])
  else if opening.map Char.toLower = "doctype".toList then t.enter .documentType
  else if opening.isPrefixOf "--".toList
      || (opening.map Char.toLower).isPrefixOf "doctype".toList then
    t.enter (.declarationOpen (c :: seen))
  else (t.deliver .malformed).readBogusComment seen c

/-- Inside a comment. The dashes and the exclamation mark in front of `c` belong to the
text unless they end the comment. -/
def readComment (t : Tokenizer) (place : CommentPlace) (text : Text) (c : Char) :
    Tokenizer :=
  match place with
  | .start =>
    if c = '-' then t.enter (.comment .startDash text)
    else if c = '>' then t.comment text
    else t.enter (.comment .inside (shown c :: text))
  | .startDash =>
    if c = '-' then t.enter (.comment .endDashes text)
    else if c = '>' then t.comment text
    else t.enter (.comment .inside (shown c :: '-' :: text))
  | .inside =>
    if c = '-' then t.enter (.comment .endDash text)
    else t.enter (.comment .inside (shown c :: text))
  | .endDash =>
    if c = '-' then t.enter (.comment .endDashes text)
    else t.enter (.comment .inside (shown c :: '-' :: text))
  | .endDashes =>
    if c = '>' then t.comment text
    else if c = '!' then t.enter (.comment .endBang text)
    else if c = '-' then t.enter (.comment .endDashes ('-' :: text))
    else t.enter (.comment .inside (shown c :: '-' :: '-' :: text))
  | .endBang =>
    if c = '-' then t.enter (.comment .endDash ('!' :: '-' :: '-' :: text))
    else if c = '>' then t.comment text
    else t.enter (.comment .inside (shown c :: '!' :: '-' :: '-' :: text))

/-- In a document type, which any `>` ends. -/
def readDocumentType (t : Tokenizer) (c : Char) : Tokenizer :=
  if c = '>' then (t.deliver .documentType).enter .data else t

/-! ## Reading a character -/

/-- Counts a line feed, except in front of the value of an attribute. -/
def count (t : Tokenizer) (c : Char) : Tokenizer :=
  match t.mode with
  | .tag _ .beforeValue => t
  | _ => if c = '\n' then { t with line := t.line + 1 } else t

/-- Reads a character in the present mode, which is no reference. -/
def readPlain (t : Tokenizer) (c : Char) : Tokenizer :=
  match t.mode with
  | .data => t.readData c
  | .raw kind => t.readRaw kind c
  | .reference _ _ => t
  | .tagOpen => t.readTagOpen c
  | .endTagOpen => t.readEndTagOpen c
  | .tag tag place => t.readTag tag place c
  | .rawLess kind => t.readRawLess kind c
  | .rawEndOpen kind => t.readRawEndOpen kind c
  | .rawEndName kind seen => t.readRawEndName kind seen c
  | .escapeStart dashes => t.readEscapeStart dashes c
  | .escapedDash kind several => t.readEscapedDash kind several c
  | .doubleEscapeStart seen => t.readDoubleEscapeStart seen c
  | .doubleEscapeEnd seen => t.readDoubleEscapeEnd seen c
  | .declarationOpen seen => t.readDeclarationOpen seen c
  | .comment place text => t.readComment place text c
  | .bogusComment text => t.readBogusComment text c
  | .documentType => t.readDocumentType c

/-- Delivers the characters of a reference, each by itself. -/
def letters (t : Tokenizer) (chunk : Text) : Tokenizer :=
  chunk.foldl (fun t c => t.text [c]) t

/-- Reads a character once carriage returns are gone. -/
def read (t : Tokenizer) (c : Char) : Tokenizer :=
  match t.mode with
  | .reference within reference =>
    match reference.step c with
    | .more reference => t.enter (.reference within reference)
    | .done text true => (t.letters text).enter (around within)
    | .done text false => (((t.letters text).enter (around within)).count c).readPlain c
  | _ => (t.count c).readPlain c

def step (t : Tokenizer) (c : Char) : Tokenizer :=
  if c = '\r' then { t.read '\n' with afterReturn := true }
  else if c = '\n' ∧ t.afterReturn then { t with afterReturn := false }
  else { t.read c with afterReturn := false }

/-- Delivers what the end of the document leaves unfinished. A tag or an escape that
has only begun is dropped. -/
def close (t : Tokenizer) : Tokenizer :=
  match t.mode with
  | .data | .raw _ | .tag _ _ | .escapeStart _ | .escapedDash _ _
  | .doubleEscapeStart _ | .doubleEscapeEnd _ => t
  | .reference _ reference => t.letters reference.close
  | .tagOpen => t.text ['<']
  | .endTagOpen => t.text ['<', '/']
  | .rawLess .doubleEscaped => t
  | .rawLess _ => t.text ['<']
  | .rawEndOpen _ => t.text ['<', '/']
  | .rawEndName _ seen => t.text ('<' :: '/' :: seen.reverse)
  | .declarationOpen text | .comment _ text | .bogusComment text => t.comment text
  | .documentType => t.deliver .documentType

/-- All tokens, once the document has ended. -/
def finish (t : Tokenizer) : List LocatedToken :=
  (t.close.deliver .endOfDocument).tokens.reverse

end Tokenizer

/-- A document without a leading byte order mark. -/
def dropMark : Text → Text
  | '\uFEFF' :: rest => rest
  | t => t

def tokens (content : Text) : List LocatedToken :=
  ((dropMark content).foldl Tokenizer.step .start).finish

end Html

end LicenseText
