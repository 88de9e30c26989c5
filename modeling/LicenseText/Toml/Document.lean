import LicenseText.Toml.Quoted
import LicenseText.Toml.Scalar

/-!
# TOML documents

A document is a sequence of lines: headers, which open tables, and pairs of a key and
a value, which belong to the table opened last. Arrays may span several lines; tables
in braces may not. Arrays and tables are nested less than eighty deep, and a key has
at most eighty parts.
-/

namespace LicenseText

namespace Toml

def skipSpace (t : Text) : Text := t.dropWhile isSpace

/-- What follows a comment, if one begins here. -/
def skipComment (t : Text) : Text :=
  match t with
  | '#' :: rest => rest.dropWhile isPrintable
  | _ => t

/-- What follows the end of a line, where only a comment may stand in front of it. The
end of the document ends its last line. -/
def afterLine? (t : Text) : Option Text :=
  match skipComment (skipSpace t) with
  | [] => some []
  | t => afterBreak? t

/-- What follows white space, comments and line ends. -/
def skipLines (t : Text) : Text :=
  match skipSpace t with
  | [] => []
  | c :: rest =>
    match afterBreak? (skipComment (c :: rest)) with
    | some behind =>
      if _ : behind.length < t.length then skipLines behind else behind
    | none => c :: rest
termination_by t.length

/-- How deep values may be nested, and how many parts a key may have. -/
def deepest : Nat := 79

/-! ## Keys -/

/-- Whether a character may occur in a key without quotes. -/
def isKeyChar (c : Char) : Bool := c.isAlphanum || c == '_' || c == '-'

/-- One part of a key, and what follows it. -/
def keyPart? (t : Text) : Option (Text × Text) :=
  match t.takeWhile isKeyChar with
  | [] => string? false t
  | part => some (part, t.dropWhile isKeyChar)

/-- The parts of a key, behind those that `parts` holds, newest first. Spaces may stand
around the parts. -/
def keyFrom? (parts : List Text) (t : Text) : Option (List Text × Text) :=
  match keyPart? (skipSpace t) with
  | none => none
  | some (part, rest) =>
    match skipSpace rest with
    | '.' :: behind =>
      if _ : behind.length < t.length then keyFrom? (part :: parts) behind else none
    | rest => some ((part :: parts).reverse, rest)
termination_by t.length

/-- The parts of a key in front of the last one, the last one, and what follows. -/
def key? (t : Text) : Option (List Text × Text × Text) :=
  match keyFrom? [] t with
  | none => none
  | some (parts, rest) =>
    if deepest < parts.length then none
    else parts.getLast?.map fun last => (parts.dropLast, last, rest)

/-! ## Values -/

/-- A part of a document at the front of a text, and what follows it. -/
abbrev Parser (α : Type) := Text → Option (α × Text)

/-- The elements of an array, behind those that `found` holds, newest first. -/
def elements? (value? : Parser Value) (found : List Value) (t : Text) :
    Option (Value × Text) :=
  match skipLines t with
  | ']' :: rest => some (.array found.reverse, rest)
  | t' =>
    match value? t' with
    | none => none
    | some (value, rest) =>
      match skipLines rest with
      | ']' :: rest => some (.array (value :: found).reverse, rest)
      | ',' :: rest =>
        if _ : rest.length < t.length then elements? value? (value :: found) rest
        else none
      | _ => none
termination_by t.length

/-- A key with its value, added to the entries of a table in braces. -/
def bracePair? (value? : Parser Value) (entries : Entries) : Parser Entries := fun t =>
  match key? t with
  | some (path, key, '=' :: rest) =>
    match value? (skipSpace rest) with
    | some (value, rest) =>
      (entries.define key value path).map fun entries => (entries, skipSpace rest)
    | none => none
  | _ => none

/-- The entries of a table in braces, behind those already there. -/
def braceEntries? (value? : Parser Value) (entries : Entries) (t : Text) :
    Option (Value × Text) :=
  match bracePair? value? entries t with
  | some (entries, '}' :: rest) => some (.table .braces entries, rest)
  | some (entries, ',' :: rest) =>
    if _ : rest.length < t.length then braceEntries? value? entries rest else none
  | _ => none
termination_by t.length

/-- A value that holds arrays and tables in braces less than `depth` deep. -/
def value? (depth : Nat) : Parser Value := fun t =>
  match t with
  | '"' :: _ | '\'' :: _ => (string? true t).map fun (text, rest) => (.string text, rest)
  | '[' :: rest =>
    match depth with
    | 0 => none
    | depth + 1 => elements? (value? depth) [] rest
  | '{' :: rest =>
    match depth with
    | 0 => none
    | depth + 1 =>
      match skipSpace rest with
      | '}' :: rest => some (.table .braces [], rest)
      | _ => braceEntries? (value? depth) [] rest
  | _ => scalar? t

/-! ## Documents -/

/-- A document read in part: its tables, and the header of the table opened last. -/
structure Draft where
  entries : Entries
  header : List Text

namespace Draft

/-- A header in single brackets, behind the first of them. -/
def tableHeader? (draft : Draft) : Parser Draft := fun t =>
  match key? t with
  | some (path, key, ']' :: rest) => do
    let entries ← draft.entries.openTable path key
    some (⟨entries, path ++ [key]⟩, ← afterLine? rest)
  | _ => none

/-- A header in double brackets, behind the first two of them. -/
def elementHeader? (draft : Draft) : Parser Draft := fun t =>
  match key? t with
  | some (path, key, ']' :: ']' :: rest) => do
    let entries ← draft.entries.openElement path key
    some (⟨entries, path ++ [key]⟩, ← afterLine? rest)
  | _ => none

def pair? (draft : Draft) : Parser Draft := fun t =>
  match key? t with
  | some (path, key, '=' :: rest) => do
    let (value, rest) ← value? deepest (skipSpace rest)
    let rest ← afterLine? rest
    let entries ← draft.entries.under
      (fun table => table.define key value path) draft.header
    some ({ draft with entries := entries }, rest)
  | _ => none

/-- A line of the document, or the lines of one pair. -/
def line? (draft : Draft) : Parser Draft := fun t =>
  match skipSpace t with
  | [] => some (draft, [])
  | '[' :: '[' :: rest => draft.elementHeader? rest
  | '[' :: rest => draft.tableHeader? rest
  | t =>
    match afterLine? t with
    | some rest => some (draft, rest)
    | none => draft.pair? t

/-- The document that goes on with the given text. -/
def finish? (draft : Draft) (t : Text) : Option Entries :=
  match t with
  | [] => some draft.entries
  | c :: rest =>
    match draft.line? (c :: rest) with
    | none => none
    | some (draft, behind) =>
      if _ : behind.length < (c :: rest).length then draft.finish? behind else none
termination_by t.length
decreasing_by assumption

end Draft

/-- The entries of a document, if it is well formed. A leading byte order mark is
passed over. -/
def parse? (document : Text) : Option Entries :=
  Draft.finish? ⟨[], []⟩ <|
    match document with
    | '\uFEFF' :: rest => rest
    | _ => document

end Toml

end LicenseText
