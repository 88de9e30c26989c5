import LicenseText.Proofs.Html.Chunks
import LicenseText.Proofs.Html.NodeTokens

/-!
# Reading back an HTML document

The tokens of a document that is put together from nodes are the tokens of its nodes. The
collector puts the chunks of a text together again, and what it finds are the items of the
nodes.
-/

namespace LicenseText

namespace Html

open Text

namespace Collector

theorem delivers_textTokens (line : Nat) (raw : Text) :
    Delivers line raw [] (Tokenizer.textTokens line raw) := by
  induction raw generalizing line with
  | nil => exact .done line
  | cons c raw ih => exact .text [c] (ih _)

/-- A run of text is found on the line on which it starts. -/
theorem flush_foldl_textTokens {collector : Collector} (h : collector.held = [])
    (before raw : Text) :
    ((Tokenizer.textTokens (1 + breaks before) raw).foldl (step true) collector).flush.found =
      ((Markup.literalBehind? before raw).map Item.string).toList ++ collector.found := by
  have hdelivers := delivers_textTokens (1 + breaks before) raw
  have hfinish := finish_foldl_delivers hdelivers (holds_nil h (1 + breaks before)) rfl
  rw [finish, itemsFrom, List.nil_append, Run.literal?, Markup.text?_eq_literalBehind?,
    List.reverse_eq_iff, List.reverse_append, List.reverse_reverse, reverse_toList] at hfinish
  exact hfinish

/-- The tokens of a node give its item, once the run of text that may be held is ended. -/
theorem flush_foldl_tokens {node : Node} (hfits : node.Fits) {collector : Collector}
    (hheld : node.isText = true → collector.held = []) (before : Text) :
    ((node.tokens (1 + breaks before)).foldl (step true) collector).flush.found =
        (node.itemBehind? before).toList ++ collector.flush.found ∧
      (node.isText = false →
        ((node.tokens (1 + breaks before)).foldl (step true) collector).held = []) := by
  cases node with
  | comment inside =>
      have hinside := instructionInside_of_head_ne hfits.2.1
      refine ⟨?_, fun _ => rfl⟩
      rw [Node.itemBehind?, ← Markup.comment_eq_commentBehind, Node.tokens, List.foldl_cons,
        List.foldl_nil, step_comment, found_flush rfl, hinside]
      rfl
  | text raw =>
      refine ⟨?_, fun h => absurd h (by simp [Node.isText])⟩
      rw [found_flush (hheld rfl)]
      exact flush_foldl_textTokens (hheld rfl) before raw
  | startTag name => exact ⟨found_flush rfl, fun _ => rfl⟩
  | endTag name => exact ⟨found_flush rfl, fun _ => rfl⟩

theorem flush_foldl_tokensFrom {nodes : List Node} (hfits : ∀ node ∈ nodes, node.Fits)
    (hseparate : nodes.IsChain fun node next => ¬(node.isText ∧ next.isText))
    {collector : Collector}
    (hheld : ∀ node ∈ nodes.head?, node.isText = true → collector.held = [])
    (before : Text) :
    ((tokensFrom (1 + breaks before) nodes).foldl (step true) collector).flush.found.reverse =
      collector.flush.found.reverse ++ itemsBehind before nodes := by
  induction nodes generalizing collector before with
  | nil => simp [tokensFrom, itemsBehind]
  | cons node nodes ih =>
      obtain ⟨hfound, hnext⟩ := flush_foldl_tokens (hfits node (List.mem_cons_self ..))
        (hheld node rfl) before
      have hapart : ∀ next ∈ nodes.head?, next.isText = true →
          ((node.tokens (1 + breaks before)).foldl (step true) collector).held = [] := by
        intro next hmem htext
        apply hnext
        have hpair := (List.isChain_cons.mp hseparate).1 next hmem
        rw [Bool.eq_false_iff]
        exact fun hnode => hpair ⟨hnode, htext⟩
      have hrest := ih (fun later hlater => hfits later (List.mem_cons_of_mem _ hlater))
        hseparate.tail hapart (before ++ node.write)
      rw [tokensFrom, List.foldl_append, itemsBehind, Nat.add_assoc, ← breaks_append, hrest,
        hfound, List.reverse_append, reverse_toList, List.append_assoc]

end Collector

/-- A document that is put together from nodes is read as the items of its nodes. -/
theorem read_htmlDocument {nodes : List Node} (h : WellFormed nodes) :
    read (document nodes) true = itemsBehind [] nodes := by
  have hitems : (((tokensFrom 1 nodes).foldl (Collector.step true) .start).flush.found).reverse =
      itemsBehind [] nodes :=
    Collector.flush_foldl_tokensFrom h.fits h.separate (fun _ _ _ => rfl) []
  rw [read, itemsOf, tokens_document h, List.foldl_append, Collector.finish,
    Collector.found_flush rfl]
  exact hitems

theorem read_htmlDocument_of_paragraph :
    read (document [.startTag "P".toList, .text "\na < b\n".toList, .comment "-\n--!".toList,
        .text " ".toList, .comment [], .endTag "p".toList]) true =
      [.string ⟨"a < b".toList, 2⟩, .comment (.written ["-".toList, "--!".toList] 3 4),
        .comment (.onLine [] 4)] := by
  have hread := @read_htmlDocument
    [.startTag "P".toList, .text "\na < b\n".toList, .comment "-\n--!".toList,
      .text " ".toList, .comment [], .endTag "p".toList]
    ⟨by decide, by decide, by decide⟩
  exact hread.trans (by decide)

end Html

end LicenseText
