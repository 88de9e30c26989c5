import LicenseText.Text.Digits

/-!
# Strings in TOML

A string stands between double quotes, where a backslash introduces an escape, or
between single quotes, where every character stands for itself. Three quotes instead
of one let a string span several lines. A line feed directly behind three quotes does
not belong to the string, and up to two quotes may stand in front of the closing ones.
Control characters may not occur, the tab excepted.
-/

namespace LicenseText

namespace Toml

/-- Whether a character may occur in a comment, or in a string. -/
def isPrintable (c : Char) : Bool := c == '\t' || (0x20 ≤ c.toNat && c.toNat ≠ 0x7F)

def isSpace (c : Char) : Bool := c == ' ' || c == '\t'

def afterBreak? : Text → Option Text
  | '\n' :: rest => some rest
  | '\r' :: '\n' :: rest => some rest
  | _ => none

/-- The character with the given number of hexadecimal digits at the front of a text. -/
def codePoint? (count : Nat) (t : Text) : Option Char :=
  let digits := t.take count
  if digits.length = count then
    (number? 16 digits).bind fun n => if n.isValidChar then some (Char.ofNat n) else none
  else none

/-- The character that the letter behind a backslash stands for. -/
def escaped? : Char → Option Char
  | 'b' => some '\x08'
  | 't' => some '\t'
  | 'n' => some '\n'
  | 'f' => some '\x0c'
  | 'r' => some '\r'
  | '"' => some '"'
  | '\\' => some '\\'
  | _ => none

/-- A string of one line whose opening quote has been passed, and what follows it.
Behind a backslash, `skip` characters belong to an escape already read. -/
def lineString? (quote : Char) (skip : Nat) (out : Text) : Text → Option (Text × Text)
  | [] => none
  | c :: rest =>
    match skip with
    | skip + 1 => lineString? quote skip out rest
    | 0 =>
      if c = quote then some (out.reverse, rest)
      else if c = '\\' ∧ quote = '"' then
        match rest with
        | 'u' :: digits =>
          (codePoint? 4 digits).bind fun d => lineString? quote 5 (d :: out) rest
        | 'U' :: digits =>
          (codePoint? 8 digits).bind fun d => lineString? quote 9 (d :: out) rest
        | letter :: _ =>
          (escaped? letter).bind fun d => lineString? quote 1 (d :: out) rest
        | [] => none
      else if isPrintable c then lineString? quote 0 (c :: out) rest
      else none

/-- The number of characters at the front of a text that are spaces, tabs or line
ends. -/
def blankLength : Text → Nat
  | [] => 0
  | '\r' :: '\n' :: rest => blankLength rest + 2
  | c :: rest => if isSpace c || c == '\n' then blankLength rest + 1 else 0

/-- The number of characters that a backslash at the end of a line removes. -/
def joined? (t : Text) : Option Nat :=
  (afterBreak? (t.dropWhile isSpace)).map fun _ => blankLength t

/-- A string of several lines whose opening quotes have been passed, and what follows
it. -/
def blockString? (quote : Char) (skip : Nat) (out : Text) : Text → Option (Text × Text)
  | [] => none
  | c :: rest =>
    match skip with
    | skip + 1 => blockString? quote skip out rest
    | 0 =>
      if c = quote then
        let quotes := (c :: rest).takeWhile (· = quote)
        if quotes.length < 3 then blockString? quote 0 (c :: out) rest
        else
          let inside := min (quotes.length - 3) 2
          some (out.reverse ++ List.replicate inside quote, rest.drop (inside + 2))
      else if c = '\\' ∧ quote = '"' then
        match rest with
        | 'u' :: digits =>
          (codePoint? 4 digits).bind fun d => blockString? quote 5 (d :: out) rest
        | 'U' :: digits =>
          (codePoint? 8 digits).bind fun d => blockString? quote 9 (d :: out) rest
        | letter :: _ =>
          match escaped? letter with
          | some d => blockString? quote 1 (d :: out) rest
          | none => (joined? rest).bind fun count => blockString? quote count out rest
        | [] => none
      else if c = '\n' ∨ isPrintable c then blockString? quote 0 (c :: out) rest
      else if c = '\r' ∧ rest.head? = some '\n' then blockString? quote 0 out rest
      else none

/-- A string at the front of a text, and what follows it. Strings of several lines are
read only where `blocks` allows them. -/
def string? (blocks : Bool) (t : Text) : Option (Text × Text) :=
  match t with
  | quote :: rest =>
    if quote = '"' ∨ quote = '\'' then
      match [quote, quote].isPrefixOf? rest with
      | some behind =>
        if blocks then blockString? quote 0 [] ((afterBreak? behind).getD behind)
        else lineString? quote 0 [] rest
      | none => lineString? quote 0 [] rest
    else none
  | [] => none

end Toml

end LicenseText
