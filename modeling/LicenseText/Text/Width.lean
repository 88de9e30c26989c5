import LicenseText.Text.Width.Emoji
import LicenseText.Text.Width.Ligature

/-!
# Display width

The number of columns that a text takes on a terminal. It is the sum of the columns of
its characters, except where characters are shown as one: an emoji that a joiner, a skin
tone or tags make of several others takes two columns, a variation selector decides
between one column and two, and ligatures take the columns of one letter.

A text is measured from its end. `Context` keeps what is known of the characters behind
the one to be measured, and `measure` tells what that character adds. It takes columns
back when a ligature turns out to be narrower than its parts.
-/

namespace LicenseText

/-- What the variation selector behind a character asks for. -/
inductive Selector where
  | picture
  | text
  /-- The wide form of a quotation mark. -/
  | wideQuote
  deriving Repr, DecidableEq

namespace Selector

def ofChar? (c : Char) : Option Selector :=
  if c = '\uFE0F' then some .picture
  else if c = '\uFE0E' then some .text
  else if c = '\uFE01' then some .wideQuote
  else none

end Selector

/-- What stands between a character and the joiner in front of an emoji. -/
inductive Joint where
  | nothing
  | keycap
  | flagLetter
  /-- Several letters of flags, and whether their number is even. -/
  | flagLetters (even : Bool)
  /-- So many tags of letters in front of the end tag. -/
  | tagLetters (count : Nat)
  /-- So many tags of digits in front of tags of letters and the end tag. -/
  | tagDigits (count : Nat)
  deriving Repr, DecidableEq

/-- What stands behind a character, as far as it matters for the character's width. -/
inductive Behind where
  | other
  | picture
  | skinTone
  | flagLetter
  | flagLetters
  | joint (joint : Joint)
  /-- The vowel sign E of the Kirat Rai script. -/
  | vowelE
  /-- The vowel sign AI of the Kirat Rai script, or two signs E. -/
  | vowelAi
  | ligature (ligature : Ligature)
  deriving Repr, DecidableEq

namespace Behind

/-- What matters once a selector has come to nothing. -/
def settle : Behind → Behind
  | .ligature letter => .ligature letter
  | _ => .other

/-- Whether a picture is joined to the emoji behind it. -/
def isJoint : Behind → Bool
  | .joint _ => true
  | _ => false

/-- What a character adds in front of others that do not matter for it: its columns, and
what it is for the character in front of it. -/
def alone (c : Char) : Int × Behind :=
  if Emoji.isFlagLetter c then (1, .flagLetter)
  else if Emoji.isSkinTone c then (2, .skinTone)
  else if Emoji.isPicture c then (2, .picture)
  else if c.toNat = 0x16D67 then (1, .vowelE)
  else if c.toNat = 0x16D68 then (1, .vowelAi)
  else
    match Ligature.ofLetter? c with
    | some letter => (1, .ligature letter)
    | none => (columns c, .other)

/-- What a character adds in front of a joiner and an emoji, with a joint in between. -/
def beforeJoint (between : Joint) (c : Char) : Int × Behind :=
  match between with
  | .nothing =>
    if c = Emoji.keycap then (0, .joint .keycap)
    else if c = Emoji.endTag then (0, .joint (.tagLetters 0))
    else if Emoji.isFlagLetter c then (1, .joint .flagLetter)
    else if Emoji.isSkinTone c then (0, .skinTone)
    else if Emoji.isPicture c then (0, .picture)
    else alone c
  | .keycap => alone c
  | .flagLetter =>
    if Emoji.isFlagLetter c then (-1, .joint (.flagLetters true)) else alone c
  | .flagLetters even =>
    if c = joiner then (0, .joint .nothing)
    else if Emoji.isFlagLetter c then (if even then 3 else -1, .joint (.flagLetters !even))
    else alone c
  | .tagLetters count =>
    if Emoji.isTagLetter c ∧ count < 6 then (0, .joint (.tagLetters (count + 1)))
    else if Emoji.isTagDigit c ∧ count < 5 then (0, .joint (.tagDigits 1))
    else if c = Emoji.blackFlag ∧ 3 ≤ count then (0, .picture)
    else alone c
  | .tagDigits count =>
    if Emoji.isTagDigit c ∧ count < 3 then (0, .joint (.tagDigits (count + 1)))
    else if c = Emoji.blackFlag ∧ count = 3 then (0, .picture)
    else alone c

/-- What a character that is no selector adds in front of others. Signs of Kirat Rai
vowels add nothing where they are parts of one sign. -/
def before (behind : Behind) (c : Char) : Int × Behind :=
  if c.toNat ≤ 0xA0 then (1, .other)
  else
    match behind with
    | .other => alone c
    | .picture => if c = joiner then (0, .joint .nothing) else alone c
    | .skinTone =>
      if c = joiner then (0, .joint .nothing)
      else if Emoji.isPerson c then (0, .picture)
      else alone c
    | .flagLetter => if Emoji.isFlagLetter c then (1, .flagLetters) else alone c
    | .flagLetters =>
      if Emoji.isFlagLetter c then (1, .flagLetters)
      else if c = joiner then (0, .joint .nothing)
      else alone c
    | .joint between => beforeJoint between c
    | .vowelE =>
      if c.toNat = 0x16D63 ∨ c.toNat = 0x16D69 then (0, .other)
      else if c.toNat = 0x16D67 then (0, .vowelAi)
      else if c.toNat = 0x16D68 then (1, .vowelE)
      else alone c
    | .vowelAi => if c.toNat = 0x16D63 then (0, .other) else alone c
    | .ligature letter =>
      match letter.before? c with
      | some (columns, some letter) => (columns, .ligature letter)
      | some (columns, none) => (columns, .other)
      | none => alone c

end Behind

/-- What is known of the characters behind one: what they are, and the selector directly
behind it, if there is one. -/
structure Context where
  behind : Behind := .other
  selector : Option Selector := none
  deriving Repr, DecidableEq

namespace Context

/-- The context in front of a selector. A selector hides what stands behind it, except
for ligatures, and for the joiner in front of an emoji if it asks for a picture. -/
def select (context : Context) (selector : Selector) : Context :=
  match context.behind, context.selector, selector with
  | .ligature _, _, _ => { context with selector := some selector }
  | .joint .nothing, none, .picture | .joint .keycap, none, .picture =>
    { context with selector := some selector }
  | _, _, _ => ⟨.other, some selector⟩

def quotationMarks : Text := ['‘', '’', '“', '”']

/-- What a character with the given selector behind it adds, if the selector applies. -/
def selected? (behind : Behind) (selector : Selector) (c : Char) : Option (Int × Behind) :=
  match selector with
  | .picture =>
    if Emoji.hasSelector c then some (if behind.isJoint then 0 else 2, .picture) else none
  | .text => if Emoji.hasTextForm c then some (1, .other) else none
  | .wideQuote => if quotationMarks.any (· = c) then some (2, .other) else none

/-- What a character adds in a context: its columns, and the context that it makes for
the character in front of it. -/
def measure (context : Context) (c : Char) : Int × Context :=
  match Selector.ofChar? c, context.selector with
  | some selector, _ => (0, context.select selector)
  | none, none =>
    let (columns, behind) := context.behind.before c
    (columns, ⟨behind, none⟩)
  | none, some selector =>
    let (columns, behind) :=
      (selected? context.behind selector c).getD (context.behind.settle.before c)
    (columns, ⟨behind, none⟩)

end Context

namespace Text

/-- The number of columns of a text without line breaks. -/
def width (t : Text) : Nat :=
  (t.foldr
    (fun c (sum, context) =>
      let (columns, context) := Context.measure context c
      (sum + columns, context))
    ((0 : Int), ({} : Context))).1.toNat

end Text

end LicenseText
