import LicenseText.Proofs.Html.Document
import LicenseText.Proofs.Text.LetterCase
import LicenseText.Proofs.Text.Lookup

/-!
# The tokens of nodes

Behind every node of a document the tokenizer is back in the text between tags, and has
delivered the tokens of the node (`Node.foldl_step_write`). Text is delivered in chunks
of one character, each with its own line.
-/

namespace LicenseText

namespace Html

open Text

namespace Tokenizer

/-- A tokenizer that has not just read a carriage return. -/
def standing (mode : Mode) (line : Nat) (last : Option Text) (tokens : List LocatedToken) :
    Tokenizer :=
  ⟨mode, line, false, last, tokens⟩

section Run

variable {line : Nat} {last : Option Text} {tokens : List LocatedToken} {c : Char}

theorem step_standing {mode : Mode} (hc : c ≠ '\r')
    (hmode : ∀ within reference, mode ≠ .reference within reference)
    (hplace : ∀ tag, mode ≠ .tag tag .beforeValue) :
    (standing mode line last tokens).step c =
      { (standing mode (line + breaks [c]) last tokens).readPlain c with
        afterReturn := false } := by
  have hcount : (standing mode line last tokens).count c =
      standing mode (line + breaks [c]) last tokens := by
    rw [count.eq_def]
    split
    case h_1 tag heq => exact absurd heq (hplace tag)
    case h_2 =>
      rw [breaks_cons, breaks_nil, Nat.zero_add]
      split <;> rfl
  rw [step, if_neg hc, if_neg (by simp [standing]), Tokenizer.read.eq_def]
  split
  case h_1 within reference heq => exact absurd heq (hmode within reference)
  case h_2 => rw [hcount]

/-! ## Text -/

/-- A character that is text by itself. -/
theorem step_data (hc : c ≠ '\r') (hnull : c ≠ '\x00') (hlt : c ≠ '<') (hamp : c ≠ '&') :
    (standing .data line last tokens).step c =
      standing .data (line + breaks [c]) last
        (⟨.text [c], line + breaks [c]⟩ :: tokens) := by
  rw [step_standing hc (by simp) (by simp), readPlain.eq_def]
  dsimp only [standing]
  rw [readData, if_neg hamp, if_neg hlt, if_neg hnull]
  rfl

theorem startsName_of_named? {seen rest value : Text} (hseen : seen ≠ [])
    (h : named? (seen ++ rest) = some value) : startsName seen = true := by
  obtain ⟨first, tail, rfl⟩ := List.exists_cons_of_ne_nil hseen
  rw [named?.eq_def, List.cons_append] at h
  dsimp only at h
  obtain ⟨entry, hentry, -⟩ := Option.map_eq_some_iff.mp h
  have hname : entry.1.toList = first :: (tail ++ rest) := by
    simpa using List.find?_some hentry
  rw [startsName.eq_def]
  dsimp only
  rw [List.any_eq_true]
  refine ⟨entry, List.mem_of_find?_eq_some hentry, ?_⟩
  rw [hname, List.isPrefixOf_iff_prefix]
  exact List.prefix_append (first :: tail) rest

/-- A name goes on with a character that some longer name has there. -/
theorem step_name {seen rest value : Text} (hc : isNameChar c = true)
    (h : named? (seen ++ c :: rest) = some value) (best : Option (Text × Text)) :
    ∃ best', (Reference.name seen best).step c = .more (.name (seen ++ [c]) best') := by
  have hsemicolon : c ≠ ';' := by
    rintro rfl
    exact absurd hc (by decide)
  have hhash : c ≠ '#' := by
    rintro rfl
    exact absurd hc (by decide)
  have hstarts : startsName (seen ++ [c]) = true := by
    apply startsName_of_named? (by simp)
    rwa [List.append_assoc, List.singleton_append]
  have hname : ∃ best', Reference.stepName seen best c = .more (.name (seen ++ [c]) best') := by
    rw [Reference.stepName, if_neg hsemicolon, if_pos (by rw [hc, hstarts]; rfl)]
    exact ⟨_, rfl⟩
  cases seen with
  | nil => rwa [Reference.step, if_neg hhash]
  | cons d seen => exact hname

theorem step_reference {reference next : Reference} (hc : c ≠ '\r') (hbreak : c ≠ '\n')
    (h : reference.step c = .more next) :
    (standing (.reference none reference) line last tokens).step c =
      standing (.reference none next) line last tokens := by
  rw [step, if_neg hc, if_neg (by simp [hbreak]), Tokenizer.read.eq_def]
  dsimp only [standing]
  rw [h]
  rfl

theorem foldl_step_name {seen name value : Text} (hname : ∀ c ∈ name, isNameChar c = true)
    (h : named? (seen ++ name) = some value) (best : Option (Text × Text)) :
    ∃ best', name.foldl step (standing (.reference none (.name seen best)) line last tokens) =
      standing (.reference none (.name (seen ++ name) best')) line last tokens := by
  induction name generalizing seen best with
  | nil => exact ⟨best, by rw [List.append_nil]; rfl⟩
  | cons c name ih =>
      have hc := hname c (List.mem_cons_self ..)
      obtain ⟨next, hnext⟩ := step_name hc h best
      have hreturn : c ≠ '\r' := by
        rintro rfl
        exact absurd hc (by decide)
      have hbreak : c ≠ '\n' := by
        rintro rfl
        exact absurd hc (by decide)
      rw [List.append_cons] at h
      have hrest := ih (fun d hd => hname d (List.mem_cons_of_mem _ hd)) h next
      rw [List.foldl_cons, step_reference hreturn hbreak hnext]
      simpa using hrest

theorem step_ampersand :
    (standing .data line last tokens).step '&' =
      standing (.reference none .start) line last tokens := by
  rw [step_standing (by decide) (by simp) (by simp)]
  rfl

theorem letters_standing (mode : Mode) (chunk : Text) :
    (standing mode line last tokens).letters chunk =
      standing mode line last
        ((chunk.map fun c => ⟨.text [c], line⟩).reverse ++ tokens) := by
  induction chunk generalizing tokens with
  | nil => rfl
  | cons c chunk ih =>
      rw [List.map_cons, List.reverse_cons, List.append_assoc, List.singleton_append]
      exact ih

theorem step_semicolon {name value : Text} (h : named? name = some value)
    (best : Option (Text × Text)) :
    (standing (.reference none (.name name best)) line last tokens).step ';' =
      standing .data line last
        ((value.map fun c => ⟨.text [c], line⟩).reverse ++ tokens) := by
  have hdone : (Reference.name name best).step ';' = .done value true := by
    cases name with
    | nil => contradiction
    | cons c name =>
        rw [Reference.step.eq_def]
        dsimp only
        rw [Reference.stepName, if_pos rfl, h]
  have hletters : (standing (.reference none (.name name best)) line last tokens).letters
      value = _ := letters_standing _ value
  rw [step, if_neg (by decide), if_neg (by simp), Tokenizer.read.eq_def]
  dsimp only [standing] at hletters ⊢
  rw [hdone]
  dsimp only
  rw [hletters]
  rfl

/-- A reference by a name is the text of that name, each character by itself. -/
theorem foldl_step_reference {name value : Text} (hname : name.all isNameChar = true)
    (h : named? name = some value) :
    ('&' :: (name ++ [';'])).foldl step (standing .data line last tokens) =
      standing .data line last
        ((value.map fun c => ⟨.text [c], line⟩).reverse ++ tokens) := by
  have hseen : named? ([] ++ name) = some value := h
  obtain ⟨best, hbest⟩ : ∃ best, name.foldl step
      (standing (.reference none (.name [] none)) line last tokens) =
        standing (.reference none (.name name best)) line last tokens :=
    foldl_step_name (List.all_eq_true.mp hname) hseen none
  rw [List.foldl_cons, step_ampersand, List.foldl_append, Reference.start, hbest]
  exact step_semicolon h best

theorem named?_lt : named? ['l', 't'] = some ['<'] := by decide +kernel

theorem named?_amp : named? ['a', 'm', 'p'] = some ['&'] := by decide +kernel

/-- A character that is written in text is text by itself. -/
theorem foldl_step_escapeChar (hc : c ≠ '\r') (hnull : c ≠ '\x00') :
    (Markup.escapeChar c).foldl step (standing .data line last tokens) =
      standing .data (line + breaks [c]) last
        (⟨.text [c], line + breaks [c]⟩ :: tokens) := by
  by_cases hlt : c = '<'
  · subst hlt
    have hescape : Markup.escapeChar '<' = '&' :: (['l', 't'] ++ [';']) := by decide
    rw [hescape, foldl_step_reference (by decide) named?_lt]
    rfl
  · by_cases hamp : c = '&'
    · subst hamp
      have hescape : Markup.escapeChar '&' = '&' :: (['a', 'm', 'p'] ++ [';']) := by decide
      rw [hescape, foldl_step_reference (by decide) named?_amp]
      rfl
    · rw [Markup.escapeChar, if_neg hlt, if_neg hamp]
      exact step_data hc hnull hlt hamp

/-- The tokens of a text, the first character of which stands on the given line. -/
def textTokens (line : Nat) : Text → List LocatedToken
  | [] => []
  | c :: rest =>
    ⟨.text [c], line + breaks [c]⟩ :: textTokens (line + breaks [c]) rest

theorem foldl_step_escape {raw : Text} (hraw : IsPlain raw) :
    (Markup.escape raw).foldl step (standing .data line last tokens) =
      standing .data (line + breaks raw) last ((textTokens line raw).reverse ++ tokens) := by
  induction raw generalizing line tokens with
  | nil => rfl
  | cons c raw ih =>
      obtain ⟨hnull, hc, hrest⟩ := isPlain_cons hraw
      have hbreaks : breaks [c] + breaks raw = breaks (c :: raw) :=
        (breaks_append [c] raw).symm
      rw [Markup.escape_cons, List.foldl_append, foldl_step_escapeChar hc hnull, ih hrest,
        Nat.add_assoc, hbreaks, textTokens, List.reverse_cons, List.append_assoc,
        List.singleton_append]

/-! ## Comments -/

theorem foldl_step_commentStart :
    ['!', '-', '-'].foldl step (standing .tagOpen line last tokens) =
      standing (.comment .start []) line last tokens := by
  rfl

/-- The dashes and the exclamation mark, reversed, that belong to the text of a comment
unless they end it. -/
def heldBack : CommentPlace → Text
  | .start | .inside => []
  | .startDash | .endDash => ['-']
  | .endDashes => ['-', '-']
  | .endBang => ['!', '-', '-']

/-- The tokenizer has read `seen` of the text of a comment. -/
def HasRead (seen : Text) (place : CommentPlace) (text : Text) : Prop :=
  heldBack place ++ text = seen.reverse ∧
    (place = .start ∨ place = .startDash → text = [])

namespace HasRead

variable {t : Tokenizer} {seen text : Text} {place : CommentPlace}

theorem inside (h : HasRead seen place text) (c : Char) :
    HasRead (seen ++ [c]) .inside (c :: (heldBack place ++ text)) := by
  refine ⟨?_, by simp⟩
  rw [List.reverse_concat, ← h.1]
  rfl

/-- A character that may belong to the end of the comment is held back. -/
theorem hold (h : HasRead seen place text) {c : Char} {next : CommentPlace} {kept : Text}
    (hheld : heldBack next ++ kept = c :: (heldBack place ++ text))
    (hnext : next = .start ∨ next = .startDash → kept = []) :
    HasRead (seen ++ [c]) next kept := by
  refine ⟨?_, hnext⟩
  rw [List.reverse_concat, ← h.1, hheld]

/-- A character that does not end the comment belongs to its text. -/
theorem readComment (h : HasRead seen place text) (hnull : c ≠ '\x00')
    (hend : c = '>' → place = .inside ∨ place = .endDash) :
    ∃ next kept, t.readComment place text c = t.enter (.comment next kept) ∧
      HasRead (seen ++ [c]) next kept := by
  have hshown : shown c = c := if_neg hnull
  by_cases hdash : c = '-'
  · subst hdash
    cases place with
    | start => exact ⟨.startDash, text, rfl, h.hold rfl fun _ => h.2 (.inl rfl)⟩
    | startDash => exact ⟨.endDashes, text, rfl, h.hold rfl (by simp)⟩
    | inside => exact ⟨.endDash, text, rfl, h.hold rfl (by simp)⟩
    | endDash => exact ⟨.endDashes, text, rfl, h.hold rfl (by simp)⟩
    | endDashes => exact ⟨.endDashes, '-' :: text, rfl, h.hold rfl (by simp)⟩
    | endBang => exact ⟨.endDash, '!' :: '-' :: '-' :: text, rfl, h.hold rfl (by simp)⟩
  · have hgt : ¬(place = .inside ∨ place = .endDash) → c ≠ '>' := fun hplace hc =>
      hplace (hend hc)
    have hinside := h.inside c
    cases place with
    | start =>
        refine ⟨.inside, _, ?_, hinside⟩
        rw [Tokenizer.readComment, if_neg hdash, if_neg (hgt (by simp)), hshown]
        rfl
    | startDash =>
        refine ⟨.inside, _, ?_, hinside⟩
        rw [Tokenizer.readComment, if_neg hdash, if_neg (hgt (by simp)), hshown]
        rfl
    | inside =>
        refine ⟨.inside, _, ?_, hinside⟩
        rw [Tokenizer.readComment, if_neg hdash, hshown]
        rfl
    | endDash =>
        refine ⟨.inside, _, ?_, hinside⟩
        rw [Tokenizer.readComment, if_neg hdash, hshown]
        rfl
    | endDashes =>
        by_cases hbang : c = '!'
        · subst hbang
          exact ⟨.endBang, text, rfl, h.hold rfl (by simp)⟩
        · refine ⟨.inside, _, ?_, hinside⟩
          rw [Tokenizer.readComment, if_neg (hgt (by simp)), if_neg hbang, if_neg hdash, hshown]
          rfl
    | endBang =>
        refine ⟨.inside, _, ?_, hinside⟩
        rw [Tokenizer.readComment, if_neg hdash, if_neg (hgt (by simp)), hshown]
        rfl

end HasRead

theorem foldl_step_commentEnd {seen : Text} {place : CommentPlace} {text : Text}
    (h : HasRead seen place text) :
    ['-', '-', '>'].foldl step (standing (.comment place text) line last tokens) =
      standing .data line last (⟨.comment seen, line⟩ :: tokens) := by
  obtain ⟨htext, hstart⟩ := h
  have hseen : seen = (heldBack place ++ text).reverse := by rw [htext, List.reverse_reverse]
  rw [hseen]
  cases place with
  | start => 
      obtain rfl := hstart (.inl rfl)
      rfl
  | startDash =>
      obtain rfl := hstart (.inr rfl)
      rfl
  | inside => rfl
  | endDash => rfl
  | endDashes => rfl
  | endBang => rfl

theorem step_comment {place : CommentPlace} {text : Text} (hc : c ≠ '\r') :
    (standing (.comment place text) line last tokens).step c =
      { (standing (.comment place text) (line + breaks [c]) last tokens).readComment
          place text c with afterReturn := false } :=
  step_standing hc (by simp) (by simp)

theorem foldl_step_commentText {seen rest text : Text} {place : CommentPlace}
    (line : Nat) (h : HasRead seen place text) (hrest : IsPlain rest)
    (hend : ∀ front back, rest = front ++ '>' :: back →
      ∀ place text, HasRead (seen ++ front) place text → place = .inside ∨ place = .endDash) :
    ∃ next kept, HasRead (seen ++ rest) next kept ∧
      rest.foldl step (standing (.comment place text) line last tokens) =
        standing (.comment next kept) (line + breaks rest) last tokens := by
  induction rest generalizing seen place text line with
  | nil => exact ⟨place, text, by rwa [List.append_nil], rfl⟩
  | cons c rest ih =>
      obtain ⟨hnull, hc, hplain⟩ := isPlain_cons hrest
      have hnot : c = '>' → place = .inside ∨ place = .endDash := by
        rintro rfl
        exact hend [] rest rfl place text (by rwa [List.append_nil])
      obtain ⟨next, kept, hread, hnext⟩ := h.readComment
        (t := standing (.comment place text) (line + breaks [c]) last tokens) hnull hnot
      obtain ⟨final, left, hfinal, hfold⟩ := ih (line + breaks [c]) hnext hplain (by
        intro front back hfront place text hplace
        rw [List.append_assoc, List.singleton_append] at hplace
        exact hend (c :: front) back (congrArg (c :: ·) hfront) place text hplace)
      refine ⟨final, left, by simpa using hfinal, ?_⟩
      rw [List.foldl_cons, step_comment hc, hread]
      have hbreaks : breaks [c] + breaks rest = breaks (c :: rest) :=
        (breaks_append [c] rest).symm
      rw [← hbreaks, ← Nat.add_assoc]
      exact hfold

/-- No `>` in the text of a comment ends it. -/
theorem place_of_hasRead {inside front back text : Text} {place : CommentPlace}
    (hinside : IsCommentText inside) (hfront : inside = front ++ '>' :: back)
    (h : HasRead front place text) : place = .inside ∨ place = .endDash := by
  obtain ⟨htext, hstart⟩ := h
  have hseen : front = (heldBack place ++ text).reverse := by
    rw [htext, List.reverse_reverse]
  rw [List.reverse_append] at hseen
  cases place with
  | inside => exact .inl rfl
  | endDash => exact .inr rfl
  | start =>
      obtain rfl := hstart (.inl rfl)
      exact absurd ⟨back, by rw [hfront, hseen]; rfl⟩ hinside.opening
  | startDash =>
      obtain rfl := hstart (.inr rfl)
      exact absurd ⟨back, by rw [hfront, hseen]; rfl⟩ hinside.dashedOpening
  | endDashes =>
      exact absurd ⟨text.reverse, back, by rw [hfront, hseen]; simp [heldBack]⟩
        hinside.ending
  | endBang =>
      exact absurd ⟨text.reverse, back, by rw [hfront, hseen]; simp [heldBack]⟩
        hinside.bangEnding

/-- Behind a `<` that may open a tag, a comment is delivered with the line of its end. -/
theorem foldl_step_comment {inside : Text} (hinside : IsCommentText inside) :
    (['!', '-', '-'] ++ inside ++ ['-', '-', '>']).foldl step
        (standing .tagOpen line last tokens) =
      standing .data (line + breaks inside) last
        (⟨.comment inside, line + breaks inside⟩ :: tokens) := by
  have hstart : HasRead [] .start [] := ⟨rfl, fun _ => rfl⟩
  obtain ⟨next, kept, hnext, hfold⟩ : ∃ next kept, HasRead inside next kept ∧
      inside.foldl step (standing (.comment .start []) line last tokens) =
        standing (.comment next kept) (line + breaks inside) last tokens :=
    foldl_step_commentText line hstart hinside.plain fun front back hfront place text hplace =>
      place_of_hasRead hinside hfront hplace
  rw [List.foldl_append, List.foldl_append, foldl_step_commentStart, hfold]
  exact foldl_step_commentEnd hnext

/-! ## Tags -/

theorem ne_of_isAlphanum {d : Char} (hc : c.isAlphanum = true) (hd : d.isAlphanum = false) :
    c ≠ d := by
  rintro rfl
  rw [hc] at hd
  contradiction

theorem toLower_ne_null (hc : c.isAlphanum = true) : c.toLower ≠ '\x00' := by
  rw [ne_eq, toLower_eq_iff (by decide)]
  exact ne_of_isAlphanum hc (by decide)

theorem breaks_of_isAlphanum (hc : c.isAlphanum = true) : breaks [c] = 0 :=
  breaks_eq_zero (by simpa using (ne_of_isAlphanum hc (by decide)).symm)

theorem step_tagName {tag : OpenTag} (hc : c.isAlphanum = true) :
    (standing (.tag tag .name) line last tokens).step c =
      standing (.tag ⟨tag.isEnd, c.toLower :: tag.name⟩ .name) line last tokens := by
  have hspace : isTagSpace c = false := by
    simp [isTagSpace, ne_of_isAlphanum hc]
  have hshown : shown c.toLower = c.toLower := if_neg (toLower_ne_null hc)
  rw [step_standing (ne_of_isAlphanum hc (by decide)) (by simp) (by simp),
    breaks_of_isAlphanum hc, Nat.add_zero, readPlain.eq_def]
  dsimp only [standing]
  rw [readTag.eq_def]
  dsimp only
  rw [if_neg (by rw [hspace]; simp), if_neg (ne_of_isAlphanum hc (by decide)),
    if_neg (ne_of_isAlphanum hc (by decide)), hshown]
  rfl

theorem foldl_step_tagName {name : Text} (hname : ∀ c ∈ name, c.isAlphanum = true)
    (isEnd : Bool) (seen : Text) :
    name.foldl step (standing (.tag ⟨isEnd, seen⟩ .name) line last tokens) =
      standing (.tag ⟨isEnd, (name.map Char.toLower).reverse ++ seen⟩ .name) line last
        tokens := by
  induction name generalizing seen with
  | nil => rfl
  | cons c name ih =>
      rw [List.foldl_cons, step_tagName (hname c (List.mem_cons_self ..)),
        ih (fun d hd => hname d (List.mem_cons_of_mem _ hd))]
      simp

theorem step_tagOpen (hc : c.isAlpha = true) :
    (standing .tagOpen line last tokens).step c =
      standing (.tag ⟨false, [c.toLower]⟩ .name) line last tokens := by
  have hname : c.isAlphanum = true := by rw [Char.isAlphanum, hc, Bool.true_or]
  rw [step_standing (ne_of_isAlphanum hname (by decide)) (by simp) (by simp),
    breaks_of_isAlphanum hname, Nat.add_zero, readPlain.eq_def]
  dsimp only [standing]
  rw [readTagOpen, if_neg (ne_of_isAlphanum hname (by decide)),
    if_neg (ne_of_isAlphanum hname (by decide)), if_neg (ne_of_isAlphanum hname (by decide)),
    if_pos hc]
  rfl

theorem step_endTagOpen (hc : c.isAlpha = true) :
    (standing .endTagOpen line last tokens).step c =
      standing (.tag ⟨true, [c.toLower]⟩ .name) line last tokens := by
  have hname : c.isAlphanum = true := by rw [Char.isAlphanum, hc, Bool.true_or]
  rw [step_standing (ne_of_isAlphanum hname (by decide)) (by simp) (by simp),
    breaks_of_isAlphanum hname, Nat.add_zero, readPlain.eq_def]
  dsimp only [standing]
  rw [readEndTagOpen, if_neg (ne_of_isAlphanum hname (by decide)), if_pos hc]
  rfl

/-- The name of a tag is read in lower case. -/
theorem foldl_step_openTag {mode : Mode} {isEnd : Bool} {name : Text} (hname : IsName name)
    (hfirst : ∀ c, c.isAlpha = true → (standing mode line last tokens).step c =
      standing (.tag ⟨isEnd, [c.toLower]⟩ .name) line last tokens) :
    name.foldl step (standing mode line last tokens) =
      standing (.tag ⟨isEnd, (name.map Char.toLower).reverse⟩ .name) line last tokens := by
  obtain ⟨hhead, hall⟩ := hname
  have hletters := List.all_eq_true.mp hall
  cases name with
  | nil => contradiction
  | cons c rest =>
      rw [List.foldl_cons, hfirst c hhead,
        foldl_step_tagName (fun d hd => hletters d (List.mem_cons_of_mem _ hd)), List.map_cons,
        List.reverse_cons]

theorem ofElement?_eq_none {name : Text} (h : name ∉ rawElements) :
    RawKind.ofElement? name = none := by
  rw [RawKind.ofElement?, lookup_eq_none_iff_ne]
  rintro entry hentry rfl
  exact h (List.mem_map_of_mem hentry)

theorem step_tagEnd (tag : OpenTag) :
    (standing (.tag tag .name) line last tokens).step '>' =
      { (standing (.tag tag .name) line last tokens).tag tag false with
        afterReturn := false } :=
  step_standing (by decide) (by simp) (by simp)

/-- A start tag is delivered, and text follows it. -/
theorem foldl_step_startTag {name : Text} (hname : IsName name)
    (hraw : name.map Char.toLower ∉ rawElements) :
    (Node.startTag name).write.foldl step (standing .data line last tokens) =
      standing .data line (some (name.map Char.toLower))
        (⟨.startTag (name.map Char.toLower) false, line⟩ :: tokens) := by
  have hopen : ['<'].foldl step (standing .data line last tokens) =
      standing .tagOpen line last tokens := rfl
  rw [Node.write, List.foldl_append, List.foldl_append, hopen,
    foldl_step_openTag hname fun c hc => step_tagOpen hc, List.foldl_cons, List.foldl_nil,
    step_tagEnd, Tokenizer.tag, if_neg Bool.false_ne_true]
  dsimp only
  rw [List.reverse_reverse, if_neg Bool.false_ne_true, ofElement?_eq_none hraw]
  rfl

theorem foldl_step_endTag {name : Text} (hname : IsName name) :
    (Node.endTag name).write.foldl step (standing .data line last tokens) =
      standing .data line last (⟨.endTag (name.map Char.toLower), line⟩ :: tokens) := by
  have hopen : ['<', '/'].foldl step (standing .data line last tokens) =
      standing .endTagOpen line last tokens := rfl
  rw [Node.write, List.foldl_append, List.foldl_append, hopen,
    foldl_step_openTag hname fun c hc => step_endTagOpen hc, List.foldl_cons, List.foldl_nil,
    step_tagEnd, Tokenizer.tag, if_pos rfl]
  dsimp only
  rw [List.reverse_reverse]
  rfl

end Run

end Tokenizer

/-! ## Nodes -/

namespace Node

/-- The tokens of a node that starts on the given line. -/
def tokens (line : Nat) : Node → List LocatedToken
  | comment inside => [⟨.comment inside, line + breaks inside⟩]
  | text raw => Tokenizer.textTokens line raw
  | startTag name => [⟨.startTag (name.map Char.toLower) false, line⟩]
  | endTag name => [⟨.endTag (name.map Char.toLower), line⟩]

theorem breaks_of_isName {name : Text} (h : IsName name) : breaks name = 0 := by
  apply breaks_eq_zero
  intro hmem
  exact absurd (List.all_eq_true.mp h.2 '\n' hmem) (by decide)

/-- The tokenizer delivers the tokens of a node and stands on the line behind it. -/
theorem foldl_step_write {node : Node} (hfits : node.Fits) (line : Nat) (last : Option Text)
    (delivered : List LocatedToken) :
    ∃ next, node.write.foldl Tokenizer.step
        (Tokenizer.standing .data line last delivered) =
      Tokenizer.standing .data (line + breaks node.write) next
        ((node.tokens line).reverse ++ delivered) := by
  cases node with
  | comment inside =>
      have hbreaks : breaks (comment inside).write = breaks inside := by
        rw [write, breaks_append, breaks_append]
        exact Nat.zero_add _
      have hopen : (Tokenizer.standing .data line last delivered).step '<' =
          Tokenizer.standing .tagOpen line last delivered := rfl
      rw [hbreaks, write_comment, List.foldl_cons, hopen]
      exact ⟨last, Tokenizer.foldl_step_comment hfits.isCommentText⟩
  | text raw =>
      have hbreaks : breaks (text raw).write = breaks raw := Markup.breaks_escape raw
      rw [hbreaks]
      exact ⟨last, Tokenizer.foldl_step_escape hfits⟩
  | startTag name =>
      have hbreaks : breaks (startTag name).write = 0 := by
        rw [write, breaks_append, breaks_append, breaks_of_isName hfits.1]
        rfl
      rw [hbreaks]
      exact ⟨_, Tokenizer.foldl_step_startTag hfits.1 hfits.2⟩
  | endTag name =>
      have hbreaks : breaks (endTag name).write = 0 := by
        rw [write, breaks_append, breaks_append, breaks_of_isName hfits]
        rfl
      rw [hbreaks]
      exact ⟨last, Tokenizer.foldl_step_endTag hfits⟩

end Node

/-- The tokens of nodes, the first of which starts on the given line. -/
def tokensFrom (line : Nat) : List Node → List LocatedToken
  | [] => []
  | node :: rest => node.tokens line ++ tokensFrom (line + breaks node.write) rest

theorem foldl_step_document {nodes : List Node} (hfits : ∀ node ∈ nodes, node.Fits)
    (line : Nat) (last : Option Text) (delivered : List LocatedToken) :
    ∃ next, (document nodes).foldl Tokenizer.step
        (Tokenizer.standing .data line last delivered) =
      Tokenizer.standing .data (line + breaks (document nodes)) next
        ((tokensFrom line nodes).reverse ++ delivered) := by
  induction nodes generalizing line last delivered with
  | nil => exact ⟨last, rfl⟩
  | cons node nodes ih =>
      obtain ⟨middle, hnode⟩ :=
        Node.foldl_step_write (hfits node (List.mem_cons_self ..)) line last delivered
      obtain ⟨next, hrest⟩ :=
        ih (fun later hlater => hfits later (List.mem_cons_of_mem _ hlater))
          (line + breaks node.write) middle ((node.tokens line).reverse ++ delivered)
      have hdocument : document (node :: nodes) = node.write ++ document nodes :=
        List.flatMap_cons
      refine ⟨next, ?_⟩
      rw [hdocument, List.foldl_append, hnode, hrest, breaks_append, tokensFrom,
        List.reverse_append, List.append_assoc, Nat.add_assoc]

theorem dropMark_eq_self {content : Text} (h : content.head? ≠ some '\uFEFF') :
    dropMark content = content := by
  rw [dropMark.eq_def]
  split
  case h_1 rest => exact absurd rfl h
  case h_2 => rfl

theorem tokens_document {nodes : List Node} (h : WellFormed nodes) :
    tokens (document nodes) =
      tokensFrom 1 nodes ++ [⟨.endOfDocument, 1 + breaks (document nodes)⟩] := by
  obtain ⟨next, hfold⟩ := foldl_step_document h.fits 1 none []
  have hstart : Tokenizer.start = Tokenizer.standing .data 1 none [] := rfl
  rw [tokens, dropMark_eq_self h.unmarked, hstart, hfold, List.append_nil]
  simp [Tokenizer.finish, Tokenizer.close, Tokenizer.standing, Tokenizer.deliver]

end Html

end LicenseText
