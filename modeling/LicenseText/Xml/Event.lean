import LicenseText.Text.Bytes

/-!
# Events of an XML document

An XML document is cut into events: runs of text up to the next `<`, and pieces of
markup that start with `<` and end with a `>`. What follows the `<` tells the kind of
a piece, and the kind tells which `>` ends it. The reader looks no deeper: names,
attributes and the nesting of tags are not checked.

`Piece` is a run of characters that belongs to one event, together with what follows
it. A document is refused when its last piece has no end, when a piece does not begin
as its end demands, or when a document type has no name. The position of a fault is
the byte behind the last character that was read for it.
-/

namespace LicenseText

namespace Xml

inductive Fault where
  | unclosedTag
  | unclosedComment
  | unclosedCharacterData
  | unclosedDocumentType
  | unclosedInstruction
  | unknownMarkup
  | namelessDocumentType
  deriving Repr, DecidableEq

namespace Fault

def message : Fault → Text
  | .unclosedTag =>
    "syntax error: tag not closed: `>` not found before end of input".toList
  | .unclosedComment =>
    "syntax error: comment not closed: `-->` not found before end of input".toList
  | .unclosedCharacterData =>
    "syntax error: CDATA not closed: `]]>` not found before end of input".toList
  | .unclosedDocumentType =>
    "syntax error: DOCTYPE not closed: `>` not found before end of input".toList
  | .unclosedInstruction =>
    ("syntax error: processing instruction or xml declaration not closed: `?>` not "
      ++ "found before end of input").toList
  | .unknownMarkup => "syntax error: unknown or missed symbol in markup".toList
  | .namelessDocumentType =>
    ("ill-formed document: `<!DOCTYPE>` declaration does not contain a name of a "
      ++ "document type").toList

end Fault

/-- What an event is. A comment and character data come without their delimiters. -/
inductive EventKind where
  | text (raw : Text)
  | comment (inside : Text)
  | characterData (inside : Text)
  | instruction
  | markup
  deriving Repr, DecidableEq

/-- An event, the position of its first byte and the position behind its last. -/
structure Event where
  start : Nat
  stop : Nat
  kind : EventKind
  deriving Repr, DecidableEq

/-- Splits a text at the first `>` in front of which `accepts` holds of the characters
passed, the latest first. The `>` belongs to neither part. -/
def splitAtEnd? (accepts : Text → Bool) (seen : Text) : Text → Option (Text × Text)
  | [] => none
  | c :: rest =>
    if c = '>' && accepts seen then some (seen.reverse, rest)
    else splitAtEnd? accepts (c :: seen) rest

/-- Splits a text at the first `>` that stands in no quotes. -/
def splitAtTagEnd? (quote : Option Char) (seen : Text) : Text → Option (Text × Text)
  | [] => none
  | c :: rest =>
    match quote with
    | some q => splitAtTagEnd? (if c = q then none else some q) (c :: seen) rest
    | none =>
      if c = '>' then some (seen.reverse, rest)
      else
        splitAtTagEnd? (if c = '"' || c = '\'' then some c else none) (c :: seen) rest

/-- Splits a text at the `>` that closes it, where `depth` brackets are open. -/
def splitAtBalance? (depth : Nat) (seen : Text) : Text → Option (Text × Text)
  | [] => none
  | c :: rest =>
    if c = '<' then splitAtBalance? (depth + 1) (c :: seen) rest
    else if c = '>' then
      match depth with
      | 0 => some (seen.reverse, rest)
      | depth + 1 => splitAtBalance? depth (c :: seen) rest
    else splitAtBalance? depth (c :: seen) rest

/-- A comment's end follows two dashes, which are not those of its start. -/
def closesComment : Text → Bool
  | '-' :: '-' :: _ :: _ :: _ => true
  | _ => false

/-- The end of character data follows two brackets. -/
def closesCharacterData : Text → Bool
  | ']' :: ']' :: _ => true
  | _ => false

/-- The end of an instruction follows a question mark. -/
def closesInstruction : Text → Bool
  | '?' :: _ => true
  | _ => false

/-- The white space that may stand in front of the name of a document type. -/
def isSpace (c : Char) : Bool := c == ' ' || c == '\t' || c == '\n' || c == '\r'

/-- What a piece of markup turns out to be. -/
abbrev Verdict := Except Fault EventKind

/-- A comment, from what stands between `<!` and `>`. -/
def commentOf (inside : Text) : Verdict :=
  match "--".toList.isPrefixOf? inside with
  | some rest => .ok (.comment (rest.take (rest.length - 2)))
  | none => .error .unclosedComment

/-- Character data, from what stands between `<!` and `>`. -/
def characterDataOf (inside : Text) : Verdict :=
  match "[CDATA[".toList.isPrefixOf? inside with
  | some rest => .ok (.characterData (rest.take (rest.length - 2)))
  | none => .error .unclosedCharacterData

/-- A document type, from what stands between `<!` and `>`. -/
def documentTypeOf (inside : Text) : Verdict :=
  match "doctype".toList.isPrefixOf? (inside.map Char.toLower) with
  | some rest => if rest.all isSpace then .error .namelessDocumentType else .ok .markup
  | none => .error .unclosedDocumentType

/-- An instruction or declaration, from what stands between `<` and `>`. -/
def instructionOf (inside : Text) : Verdict :=
  if 2 ≤ inside.length then .ok .instruction else .error .unclosedInstruction

/-- The characters read for one event or fault, what they turn out to be, and what
follows them. -/
structure Piece where
  taken : Text
  verdict : Verdict
  rest : Text

namespace Piece

/-- A piece of markup that opens with `opening`. Its parts are known once its end is
found; otherwise the whole text was read in vain. -/
def delimited (opening body : Text) (parts? : Option (Text × Text))
    (judge : Text → Verdict) (fault : Fault) : Piece :=
  match parts? with
  | some (inside, rest) => ⟨opening ++ inside ++ ['>'], judge inside, rest⟩
  | none => ⟨opening ++ body, .error fault, []⟩

/-- The piece that starts with `<`, where `body` is what follows. -/
def ofMarkup (body : Text) : Piece :=
  match body with
  | '!' :: inner =>
    match inner with
    | '-' :: _ =>
      delimited ['<', '!'] inner (splitAtEnd? closesComment [] inner) commentOf
        .unclosedComment
    | '[' :: _ =>
      delimited ['<', '!'] inner (splitAtEnd? closesCharacterData [] inner)
        characterDataOf .unclosedCharacterData
    | 'D' :: _ | 'd' :: _ =>
      delimited ['<', '!'] inner (splitAtBalance? 0 [] inner) documentTypeOf
        .unclosedDocumentType
    | _ => ⟨['<'], .error .unknownMarkup, body⟩
  | '?' :: _ =>
    delimited ['<'] body (splitAtEnd? closesInstruction [] body) instructionOf
      .unclosedInstruction
  | _ =>
    delimited ['<'] body (splitAtTagEnd? none [] body) (fun _ => .ok .markup)
      .unclosedTag

/-- The first piece of a text that starts with `c`. -/
def first (c : Char) (rest : Text) : Piece :=
  if c = '<' then ofMarkup rest
  else
    let raw := rest.takeWhile (· ≠ '<')
    ⟨c :: raw, .ok (.text (c :: raw)), rest.dropWhile (· ≠ '<')⟩

end Piece

/-! ## The text that is left is shorter -/

theorem length_of_splitAtEnd? {accepts : Text → Bool} {seen t inside rest : Text}
    (h : splitAtEnd? accepts seen t = some (inside, rest)) : rest.length < t.length := by
  induction t generalizing seen with
  | nil => simp [splitAtEnd?] at h
  | cons c t ih =>
      rw [splitAtEnd?] at h
      split at h
      · simp_all
      · have := ih h
        simp only [List.length_cons]
        omega

theorem length_of_splitAtTagEnd? {quote : Option Char} {seen t inside rest : Text}
    (h : splitAtTagEnd? quote seen t = some (inside, rest)) :
    rest.length < t.length := by
  induction t generalizing quote seen with
  | nil => simp [splitAtTagEnd?] at h
  | cons c t ih =>
      rw [splitAtTagEnd?.eq_def] at h
      simp only [List.length_cons]
      split at h
      · contradiction
      · rename_i heq
        obtain ⟨rfl, rfl⟩ := List.cons.inj heq
        split at h
        · have := ih h
          omega
        · split at h
          · simp_all
          · have := ih h
            omega

theorem length_of_splitAtBalance? {depth : Nat} {seen t inside rest : Text}
    (h : splitAtBalance? depth seen t = some (inside, rest)) :
    rest.length < t.length := by
  induction t generalizing depth seen with
  | nil => simp [splitAtBalance?] at h
  | cons c t ih =>
      rw [splitAtBalance?.eq_def] at h
      simp only [List.length_cons]
      split at h
      · contradiction
      · rename_i heq
        obtain ⟨rfl, rfl⟩ := List.cons.inj heq
        split at h
        · have := ih h
          omega
        · split at h
          · split at h
            · simp_all
            · have := ih h
              omega
          · have := ih h
            omega

namespace Piece

theorem length_rest_delimited {opening body : Text} {parts? : Option (Text × Text)}
    {judge : Text → Verdict} {fault : Fault}
    (h : ∀ inside rest, parts? = some (inside, rest) → rest.length < body.length) :
    (delimited opening body parts? judge fault).rest.length ≤ body.length := by
  rw [delimited.eq_def]
  split
  · exact Nat.le_of_lt (h _ _ rfl)
  · simp

theorem length_rest_ofMarkup (body : Text) :
    (ofMarkup body).rest.length ≤ body.length := by
  rw [ofMarkup.eq_def]
  split
  · split
    · exact Nat.le_succ_of_le
        (length_rest_delimited fun _ _ => length_of_splitAtEnd?)
    · exact Nat.le_succ_of_le
        (length_rest_delimited fun _ _ => length_of_splitAtEnd?)
    · exact Nat.le_succ_of_le
        (length_rest_delimited fun _ _ => length_of_splitAtBalance?)
    · exact Nat.le_succ_of_le
        (length_rest_delimited fun _ _ => length_of_splitAtBalance?)
    · exact Nat.le_refl _
  · exact length_rest_delimited fun _ _ => length_of_splitAtEnd?
  · exact length_rest_delimited fun _ _ => length_of_splitAtTagEnd?

theorem length_rest_first (c : Char) (rest : Text) :
    (first c rest).rest.length < (c :: rest).length := by
  rw [first]
  split
  · exact Nat.lt_succ_of_le (length_rest_ofMarkup rest)
  · exact Nat.lt_succ_of_le (List.dropWhile_suffix _).length_le

end Piece

/-! ## Reading -/

/-- A fault and the byte position at which it shows. -/
structure Failure where
  position : Nat
  fault : Fault
  deriving Repr, DecidableEq

/-- The events of what follows `position`, behind those that `found` holds, newest
first. -/
def eventsFrom (position : Nat) (found : List Event) (input : Text) :
    Except Failure (List Event) :=
  match input with
  | [] => .ok found.reverse
  | c :: rest =>
    let piece := Piece.first c rest
    let stop := position + piece.taken.byteSize
    match piece.verdict with
    | .error fault => .error ⟨stop, fault⟩
    | .ok kind =>
      eventsFrom stop (⟨position, stop, kind⟩ :: found) piece.rest
termination_by input.length
decreasing_by exact Piece.length_rest_first c rest

/-- A document without a leading byte order mark. -/
def dropMark : Text → Text
  | '\uFEFF' :: rest => rest
  | t => t

/-- The events of a document. A leading byte order mark belongs to no event and has no
place in the count of positions. -/
def events (content : Text) : Except Failure (List Event) :=
  eventsFrom 0 [] (dropMark content)

end Xml

end LicenseText
