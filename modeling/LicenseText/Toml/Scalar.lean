import LicenseText.Text.Digits
import LicenseText.Toml.Value

/-!
# Numbers and dates in TOML

A number or date is a word of letters, digits and the signs `_`, `+`, `-`, `.` and
`:`; only a date and a time may be parted by a space. Digits may be grouped by single
underscores. A whole number has no needless zero in front and fits 64 bits. A number
with a fraction or an exponent may be as small as it likes, but not so large that it
rounds to infinity as a 64-bit number.
-/

namespace LicenseText

namespace Toml

/-- Whether a character may occur in a number or date, or in a bare word. -/
def isWordChar (c : Char) : Bool :=
  c.isAlphanum || c == '_' || c == '+' || c == '-' || c == '.' || c == ':'

/-- The digits of a run in which single underscores may stand between digits. -/
def grouped? (isDigit : Char → Bool) (run : Text) : Option Text :=
  let groups := run.splitOn '_'
  if groups.all fun group => !group.isEmpty && group.all isDigit then some groups.flatten
  else none

/-- A word without its sign, and whether that was a minus. -/
def signed (word : Text) : Bool × Text :=
  match word with
  | '+' :: rest => (false, rest)
  | '-' :: rest => (true, rest)
  | _ => (false, word)

/-- The digits of a decimal number that has no needless zero in front. -/
def plainDigits? (run : Text) : Option Text :=
  (grouped? Char.isDigit run).filter fun digits =>
    digits.length == 1 || digits.head? != some '0'

/-- Keeps the numbers that fit 64 bits. -/
def fits? (i : Int) : Option Int :=
  if Int64.minValue.toInt ≤ i ∧ i ≤ Int64.maxValue.toInt then some i else none

/-- A whole number in a base that its first two characters name. -/
def based? (base : Nat) (run : Text) : Option Int :=
  (grouped? (fun c => (digitValue? base c).isSome) run).bind fun digits =>
    (number? base digits).bind fun n => fits? n

def integer? (word : Text) : Option Int :=
  match word with
  | '0' :: 'x' :: run => based? 16 run
  | '0' :: 'o' :: run => based? 8 run
  | '0' :: 'b' :: run => based? 2 run
  | _ =>
    let (negative, run) := signed word
    (plainDigits? run).bind fun digits => (number? 10 digits).bind fun n =>
      fits? (if negative then -n else n)

/-- Whether `n` times a power of ten is at least half a step above the largest finite
64-bit number. -/
def overflows (n : Nat) (exponent : Int) : Bool :=
  let size := (Nat.toDigits 10 n).length + exponent
  let bound := Nat.pow 2 1024 - Nat.pow 2 970
  if n = 0 || size < 300 then false
  else if 320 < size then true
  else if 0 ≤ exponent then bound ≤ n * Nat.pow 10 exponent.toNat
  else bound * Nat.pow 10 (-exponent).toNat ≤ n

def exponent? (run : Text) : Option Int :=
  let (negative, run) := signed run
  (grouped? Char.isDigit run).bind fun digits =>
    (number? 10 digits).map fun n => if negative then -n else n

/-- Whether a word is a number with a fraction or an exponent. -/
def isFloat (word : Text) : Bool :=
  let (negative, run) := signed word
  if run = "inf".toList || run = "nan".toList then true
  else
    let mantissa := run.takeWhile fun c => c ≠ 'e' ∧ c ≠ 'E'
    let whole := mantissa.takeWhile (· ≠ '.')
    let fraction? := mantissa[whole.length]?.map fun _ => mantissa.drop (whole.length + 1)
    let exponent := run[mantissa.length]?.map fun _ => run.drop (mantissa.length + 1)
    let value? : Option (Nat × Int) := do
      let digits ← plainDigits? whole
      let places ← match fraction? with
        | none => some []
        | some fraction => grouped? Char.isDigit fraction
      let power ← match exponent with
        | none => some 0
        | some text => exponent? text
      let n ← number? 10 (digits ++ places)
      some (n, power - places.length)
    match value? with
    | none => false
    | some (n, power) =>
      (fraction?.isSome || exponent.isSome) && (negative || !overflows n power)

/-! ## Dates and times -/

/-- The number at the front of a text that has exactly `count` digits. -/
def fixed? (count : Nat) (t : Text) : Option (Nat × Text) :=
  let digits := t.take count
  if digits.length = count && digits.all Char.isDigit then
    (number? 10 digits).map fun n => (n, t.drop count)
  else none

/-- The number at the front of a text that has two digits and lies between bounds. -/
def pair? (least most : Nat) (t : Text) : Option (Nat × Text) :=
  (fixed? 2 t).filter fun (n, _) => least ≤ n && n ≤ most

def after? (c : Char) (t : Text) : Option Text := [c].isPrefixOf? t

def daysOf (year month : Nat) : Nat :=
  if month = 2 then
    if year % 4 = 0 ∧ (year % 100 ≠ 0 ∨ year % 400 = 0) then 29 else 28
  else if month = 4 ∨ month = 6 ∨ month = 9 ∨ month = 11 then 30
  else 31

def afterDate? (t : Text) : Option Text := do
  let (year, t) ← fixed? 4 t
  let (month, t) ← pair? 1 12 (← after? '-' t)
  let (_, t) ← pair? 1 (daysOf year month) (← after? '-' t)
  some t

def afterTime? (t : Text) : Option Text := do
  let (_, t) ← pair? 0 23 t
  let (_, t) ← pair? 0 59 (← after? ':' t)
  let (_, t) ← pair? 0 60 (← after? ':' t)
  match t with
  | '.' :: rest =>
    let behind := rest.dropWhile Char.isDigit
    if behind.length < rest.length then some behind else none
  | _ => some t

/-- Whether a text is nothing, or the distance from universal time. -/
def isOffset (t : Text) : Bool :=
  match t with
  | [] | ['Z'] | ['z'] => true
  | c :: rest =>
    (c == '+' || c == '-') &&
      (do
        let (_, t) ← pair? 0 23 rest
        let (_, t) ← pair? 0 59 (← after? ':' t)
        some t) == some []

/-- Whether a word is a time, with or without its distance from universal time. -/
def isZonedTime (word : Text) : Bool := (afterTime? word).any isOffset

def isDate (word : Text) : Bool := afterDate? word == some []

def isDateTime (word : Text) : Bool :=
  match afterDate? word with
  | none => afterTime? word == some []
  | some [] => true
  | some (c :: rest) => (c == 'T' || c == 't') && isZonedTime rest

def ofWord? (word : Text) : Option Value :=
  if word = "true".toList then some (.boolean true)
  else if word = "false".toList then some (.boolean false)
  else if isDateTime word then some .dateTime
  else if isFloat word then some .float
  else (integer? word).map .integer

/-- A number, date or truth value at the front of a text, and what follows it. -/
def scalar? (t : Text) : Option (Value × Text) :=
  let word := t.takeWhile isWordChar
  let rest := t.dropWhile isWordChar
  let time? := (after? ' ' rest).filter fun t => isZonedTime (t.takeWhile isWordChar)
  match time? with
  | some t =>
    if isDate word then some (.dateTime, t.dropWhile isWordChar)
    else (ofWord? word).map (·, rest)
  | none => (ofWord? word).map (·, rest)

end Toml

end LicenseText
