import LicenseText.Text.Basic

/-!
# TOML values

The values of a TOML document. The forms of a table record how it came about, since
that decides what may be added to it later: a table with a header of its own, or one
written in braces, is complete, while a table that only occurs inside a longer header
or a dotted key may still grow.

Two operations build a document. `openTable` and `openElement` follow a header, and
`define` gives a value to a key, where the keys in front of the last one name tables.
Neither may touch what is already complete.
-/

namespace LicenseText

namespace Toml

/-- How a table came about. -/
inductive TableForm where
  /-- It is part of a longer header. -/
  | implied
  /-- It is part of a dotted key. -/
  | dotted
  /-- It has a header. -/
  | header
  /-- It is written in braces. -/
  | braces
  deriving Repr, DecidableEq

/-- A value. Numbers with fractions and dates are told apart from other values, but
what they stand for is not kept. -/
inductive Value where
  | boolean (b : Bool)
  | integer (i : Int)
  | float
  | dateTime
  | string (text : Text)
  | array (elements : List Value)
  | table (form : TableForm) (entries : List (Text × Value))
  /-- Tables that share a header in double brackets. -/
  | tables (elements : List (List (Text × Value)))

/-- The keys of a table and their values, in the order in which they came about. -/
abbrev Entries := List (Text × Value)

namespace Entries

/-- Changes what stands under a key; `change` is told what stands there, if anything,
and may refuse. -/
def alter (entries : Entries) (key : Text) (change : Option Value → Option Value) :
    Option Entries :=
  match entries.lookup key with
  | none => (change none).map fun value => entries ++ [(key, value)]
  | some old =>
    (change (some old)).map fun value =>
      entries.map fun entry => if entry.1 == key then (key, value) else entry

/-- Changes the table that a header names. Among tables with the same header it is the
last one. Tables in between come about as they are needed. -/
def under (change : Entries → Option Entries) (path : List Text) (entries : Entries) :
    Option Entries :=
  match path with
  | [] => change entries
  | key :: path =>
    entries.alter key fun
      | none => (under change path []).map (.table .implied)
      | some (.table .braces _) => none
      | some (.table form inner) => (under change path inner).map (.table form)
      | some (.tables elements) =>
        elements.getLast?.bind fun last =>
          (under change path last).map fun new => .tables (elements.dropLast ++ [new])
      | some _ => none

/-- Opens the table with the given header, whose last key is `key`. -/
def openTable (entries : Entries) (path : List Text) (key : Text) : Option Entries :=
  entries.under (fun inner => inner.alter key fun
    | none => some (.table .header [])
    | some (.table .implied entries) => some (.table .header entries)
    | some _ => none) path

/-- Opens one more table with the given header, whose last key is `key`. -/
def openElement (entries : Entries) (path : List Text) (key : Text) : Option Entries :=
  entries.under (fun inner => inner.alter key fun
    | none => some (.tables [[]])
    | some (.tables elements) => some (.tables (elements ++ [[]]))
    | some _ => none) path

/-- Gives a value to `key` in the table that the keys of `path` lead to. The path may lead
through tables that came about without a header of their own, and the last table on it
must have come about in dotted keys alone. -/
def define (key : Text) (value : Value) (path : List Text) (entries : Entries) :
    Option Entries :=
  match path with
  | [] => entries.alter key fun old => if old.isSome then none else some value
  | first :: path =>
    entries.alter first fun
      | none => (define key value path []).map (.table .dotted)
      | some (.table form inner) =>
        if form == .dotted || (form == .implied && !path.isEmpty) then
          (define key value path inner).map (.table form)
        else none
      | some (.tables elements) =>
        if path.isEmpty then none
        else
          elements.getLast?.bind fun last =>
            (define key value path last).map fun new =>
              .tables (elements.dropLast ++ [new])
      | some _ => none

end Entries

end Toml

end LicenseText
