import LicenseText.Proofs.Xml.NodePieces
import LicenseText.Proofs.Xml.Spans

/-!
# Reading back an XML document

A document that is put together from nodes is cut into the events of its nodes, and these
are read as the items of the nodes.
-/

namespace LicenseText

namespace Xml

open Text

/-! ## References -/

theorem decodeFrom?_escapeChar (out : Text) (c : Char) (rest : Text) :
    decodeFrom? out none (Markup.escapeChar c ++ rest) = decodeFrom? (c :: out) none rest := by
  rw [Markup.escapeChar]
  by_cases hlt : c = '<'
  · subst hlt
    rfl
  · by_cases hamp : c = '&'
    · subst hamp
      rfl
    · rw [if_neg hlt, if_neg hamp, List.singleton_append, decodeFrom?, if_neg hamp]

theorem decodeFrom?_escape (out t : Text) :
    decodeFrom? out none (Markup.escape t) = some (out.reverse ++ t) := by
  induction t generalizing out with
  | nil => simp [decodeFrom?]
  | cons c t ih =>
      rw [Markup.escape_cons, decodeFrom?_escapeChar, ih]
      simp

/-- Escaped text is decoded to the text it was made from. -/
theorem decode?_escape (t : Text) : decode? (Markup.escape t) = some t :=
  decodeFrom?_escape [] t

/-! ## Events -/

namespace Node

/-- The event of a node at the given position. A node without characters has none. -/
def event? (node : Node) (position : Nat) : Option Event :=
  if node.write = [] then none
  else some ⟨position, position + byteSize node.write, node.kind⟩

theorem eventsFrom_write {node : Node} (hfits : node.Fits) {rest : Text}
    (hrest : node.isText = true → ∀ c ∈ rest.head?, c = '<') (position : Nat) :
    eventsFrom position [] (node.write ++ rest) =
      (eventsFrom (position + byteSize node.write) [] rest).map
        ((node.event? position).toList ++ ·) := by
  rw [event?]
  by_cases hne : node.write = []
  · rw [if_pos hne, hne, byteSize_nil, Nat.add_zero, List.nil_append]
    cases eventsFrom position [] rest with
    | error failure => rfl
    | ok events => rfl
  · obtain ⟨c, body, hwrite, hfirst⟩ := first_write hne hfits hrest
    have hverdict : (Piece.first c body).verdict = .ok node.kind := by rw [hfirst]
    rw [if_neg hne, hwrite, eventsFrom_cons hverdict, hfirst]
    rfl

end Node

/-! ## Items -/

theorem instructionBody_append (before inside after : Text) :
    let written : Text := ['<', '?'] ++ inside ++ ['?', '>']
    instructionBody (before ++ (written ++ after)) (byteSize before)
      (byteSize before + byteSize written) = inside := by
  intro written
  have htrim : written.trim = written := by
    apply trim_eq_self_iff.mpr
    constructor
    · intro c hc
      obtain rfl : '<' = c := by simpa [written] using hc
      decide
    · intro c hc
      have hlast : written = ['<', '?'] ++ inside ++ ['?'] ++ ['>'] := by simp [written]
      rw [hlast, List.getLast?_concat] at hc
      obtain rfl : '>' = c := Option.some.inj hc
      decide
  have hopen : "<?".toList.isPrefixOf? written = some (inside ++ ['?', '>']) :=
    (congrArg _ (List.append_assoc _ _ _)).trans (Text.isPrefixOf?_append ['<', '?'] _)
  have hclose : "?>".toList.isSuffixOf? (inside ++ ['?', '>']) = some inside :=
    Text.isSuffixOf?_append inside ['?', '>']
  rw [instructionBody, byteSlice?_append, Option.getD_some, htrim, hopen, Option.bind_some,
    hclose]

namespace Node

/-- The event of a node is read as the item of the node. -/
theorem itemAt?_event (node : Node) (before after : Text) :
    (node.event? (byteSize before)).bind
        (itemAt? (before ++ (node.write ++ after)) true) =
      node.itemBehind? before := by
  rw [event?]
  by_cases hne : node.write = []
  · rw [if_pos hne]
    cases node with
    | text raw =>
        rw [write_text_eq_nil hne]
        rfl
    | _ => simp [write] at hne
  · rw [if_neg hne, Option.bind_some, itemAt?, lineAt_byteSize]
    cases node with
    | comment inside =>
        exact congrArg (fun c => some (Item.comment c))
          (Markup.comment_eq_commentBehind before inside)
    | text raw =>
        dsimp only [kind, itemOf?, itemBehind?]
        rw [decode?_escape, Option.getD_some, if_pos rfl, Markup.text?_eq_literalBehind?]
    | characterData inside =>
        dsimp only [itemBehind?]
        rw [← Markup.text?_eq_literalBehind?]
        rfl
    | instruction inside =>
        dsimp only [kind, itemOf?, itemBehind?, write]
        rw [instructionBody_append, Markup.comment_eq_commentBehind]
    | tag inside => rfl

end Node

/-! ## Documents -/

theorem head?_document {node : Node} {nodes : List Node}
    (hseparate : (node :: nodes).IsChain fun node next => ¬(node.isText ∧ next.isText))
    (hnode : node.isText = true) : ∀ c ∈ (document nodes).head?, c = '<' := by
  have hnext := (List.isChain_cons.mp hseparate).1
  cases nodes with
  | nil => simp [document]
  | cons next nodes =>
      intro c hc
      cases next with
      | text raw => exact absurd ⟨hnode, rfl⟩ (hnext (.text raw) rfl)
      | _ => simpa [document, Node.write, eq_comm] using hc

theorem eventsFrom_document {nodes : List Node} (hfits : ∀ node ∈ nodes, node.Fits)
    (hseparate : nodes.IsChain fun node next => ¬(node.isText ∧ next.isText))
    (before : Text) :
    ∃ events, eventsFrom (byteSize before) [] (document nodes) = .ok events ∧
      events.filterMap (itemAt? (before ++ document nodes) true) =
        itemsBehind before nodes := by
  induction nodes generalizing before with
  | nil => exact ⟨[], by rw [document, List.flatMap_nil, eventsFrom]; rfl, rfl⟩
  | cons node nodes ih =>
      obtain ⟨events, hevents, hitems⟩ :=
        ih (fun later hlater => hfits later (List.mem_cons_of_mem _ hlater))
          hseparate.tail (before ++ node.write)
      have hwrite := Node.eventsFrom_write (hfits node (List.mem_cons_self ..))
        (head?_document hseparate) (byteSize before)
      have hitem := Node.itemAt?_event node before (document nodes)
      rw [byteSize_append] at hevents
      rw [hevents] at hwrite
      rw [List.append_assoc] at hitems
      refine ⟨(node.event? (byteSize before)).toList ++ events, hwrite, ?_⟩
      have hdocument : document (node :: nodes) = node.write ++ document nodes :=
        List.flatMap_cons
      rw [hdocument, List.filterMap_append, hitems, itemsBehind, ← hitem]
      cases node.event? (byteSize before) with
      | none => rfl
      | some event =>
          rw [Option.toList_some, List.filterMap_cons, Option.bind_some]
          cases itemAt? (before ++ (node.write ++ document nodes)) true event <;> rfl

theorem dropMark_eq_self {content : Text} (h : content.head? ≠ some '\uFEFF') :
    dropMark content = content := by
  rw [dropMark.eq_def]
  split
  case h_1 rest => exact absurd rfl h
  case h_2 => rfl

/-- A document that is put together from nodes is read as the items of its nodes. -/
theorem read_xmlDocument {nodes : List Node} (h : WellFormed nodes) :
    read (document nodes) true = .ok (itemsBehind [] nodes) := by
  obtain ⟨all, hall, hitems⟩ := eventsFrom_document h.fits h.separate []
  have hevents : events (document nodes) = .ok all := by
    rw [events, dropMark_eq_self h.unmarked]
    exact hall
  rw [read, hevents, ← hitems, List.nil_append]
  exact congrArg Except.ok (itemsOf_eq_filterMap (eventsPlaced_events hevents) true)

theorem read_xmlDocument_of_note :
    read (document [.instruction "xml".toList, .text "\n".toList, .tag "p".toList,
        .text "\na < b ".toList, .comment ">\n x".toList, .characterData " \n]".toList,
        .tag "/p".toList]) true =
      .ok [.comment (.onLine "xml".toList 1), .string ⟨"a < b".toList, 3⟩,
        .comment (.written [">".toList, "x".toList] 3 4), .string ⟨"]".toList, 5⟩] := by
  have hread := @read_xmlDocument
    [.instruction "xml".toList, .text "\n".toList, .tag "p".toList,
      .text "\na < b ".toList, .comment ">\n x".toList, .characterData " \n]".toList,
      .tag "/p".toList]
    ⟨by decide, by decide, by decide⟩
  exact hread.trans (by decide)

end Xml

end LicenseText
