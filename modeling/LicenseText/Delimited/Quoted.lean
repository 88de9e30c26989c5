import LicenseText.Item
import LicenseText.Text.Lines

/-!
# Quoted spans

A quoted span starts and ends with the same quote character. Between them stand
units: a character that is neither the quote nor a backslash, or a backslash and the
character it protects, which is not a line feed. The spans of a line are found from
left to right; a quote that starts no span is passed over, and the search goes on
behind it.
-/

namespace LicenseText

namespace Quoted

/-- Reads a span whose opening quote has just been passed. The result is the span's
interior, in front of which `seen` stands reversed, and what follows the closing
quote. -/
def closeFrom? (quote : Char) (seen : Text) : Text → Option (Text × Text)
  | [] => none
  | c :: rest =>
    if c = quote then some (seen.reverse, rest)
    else if c = '\\' then
      match rest with
      | [] => none
      | protected_ :: rest =>
        if protected_ = '\n' then none
        else closeFrom? quote (protected_ :: c :: seen) rest
    else closeFrom? quote (c :: seen) rest

/-- What follows a span is shorter than what followed its opening quote. -/
theorem length_of_closeFrom? {quote : Char} {seen t inside rest : Text}
    (h : closeFrom? quote seen t = some (inside, rest)) : rest.length < t.length := by
  fun_induction closeFrom? quote seen t with
  | case1 => simp at h
  | case2 => simp_all
  | case3 => simp at h
  | case4 => simp at h
  | case5 =>
    rename_i ih
    have := ih h
    simp only [List.length_cons]
    omega
  | case6 =>
    rename_i ih
    have := ih h
    simp only [List.length_cons]
    omega

/-- The interiors of the spans in `t`, behind those already found, which `found` holds
newest first. -/
def interiorsFrom (quote : Char) (found : List Text) (t : Text) : List Text :=
  match t with
  | [] => found.reverse
  | c :: rest =>
    if c = quote then
      match h : closeFrom? quote [] rest with
      | some (inside, behind) =>
        have := length_of_closeFrom? h
        interiorsFrom quote (inside :: found) behind
      | none => interiorsFrom quote found rest
    else interiorsFrom quote found rest
termination_by t.length

/-- The interiors of the quoted spans of a text, from left to right. -/
def interiors (quote : Char) (t : Text) : List Text := interiorsFrom quote [] t

def isQuote (c : Char) : Bool := c == '"' || c == '\''

/-- The string literals of a line, one quote character after another. -/
def strings (quotes : List Char) (line : NumberedLine) : List StringLiteral :=
  (quotes.filter isQuote).flatMap fun quote =>
    (interiors quote line.text).map fun inside => ⟨inside, line.number⟩

end Quoted

end LicenseText
