import LicenseText.Proofs.Item.Arrangement

/-!
# Lines in machine words

Behind the last line that a machine word can number comes line zero, so a comment that ends
there stands apart from all comments that start behind line zero. As long as no comment ends
there, joining does not depend on whether lines are words or natural numbers.
-/

namespace LicenseText

/-- Words are apart as their values are, where the line behind the last one is line zero. -/
theorem Comment.apart_iff_toNat {c next : Comment UInt64} :
    c.Apart next ↔ (c.endLine.toNat + 1) % UInt64.size < next.startLine.toNat := by
  rw [Apart, UInt64.lt_iff_toNat_lt, UInt64.toNat_add]
  rfl

def Comment.numbered (c : Comment UInt64) : Comment :=
  ⟨c.body, c.startLine.toNat, c.endLine.toNat, c.multiline⟩

/-- A ranked comment with its lines as natural numbers. -/
def RankedComment.numbered (r : RankedComment UInt64) : RankedComment :=
  ⟨r.rank, r.comment.numbered⟩

/-- The comment does not end on the last line that a word can number. -/
def Comment.EndsEarly (c : Comment UInt64) : Prop := c.endLine.toNat + 1 < UInt64.size

theorem Comment.EndsEarly.touches_numbered {c : Comment UInt64} (h : c.EndsEarly)
    (next : Comment UInt64) : c.numbered.touches next.numbered = c.touches next := by
  rw [Bool.eq_iff_iff, touches_iff, touches_iff, apart_iff_toNat, Nat.mod_eq_of_lt h]
  rfl

theorem map_numbered_joinOnto {head : RankedComment UInt64} (h : head.comment.EndsEarly)
    (groups : List (RankedComment UInt64)) :
    (joinOnto head groups).map RankedComment.numbered =
      joinOnto head.numbered (groups.map RankedComment.numbered) := by
  cases groups with
  | nil => rfl
  | cons group groups =>
      have htouches : head.numbered.comment.touches group.numbered.comment =
          head.comment.touches group.comment := h.touches_numbered group.comment
      rw [List.map_cons, joinOnto, joinOnto, htouches]
      split <;> rfl

/-- Comments that end before the last line that a word can number are joined as if their
lines were natural numbers. -/
theorem map_numbered_joinRanked {comments : List (RankedComment UInt64)}
    (h : ∀ r ∈ comments, r.comment.EndsEarly) :
    (joinRanked comments).map RankedComment.numbered =
      joinRanked (comments.map RankedComment.numbered) := by
  induction comments with
  | nil => rfl
  | cons head comments ih =>
      obtain ⟨hhead, hrest⟩ := List.forall_mem_cons.mp h
      rw [joinRanked_cons, List.map_cons, joinRanked_cons, map_numbered_joinOnto hhead,
        ih hrest]

/-- Behind a comment that ends on the last line a word can number, nothing is joined to it. -/
example :
    let comments : List (RankedComment UInt64) :=
      [⟨0, ⟨[['a']], 3, 18446744073709551615, true⟩⟩, ⟨1, ⟨[['b']], 4, 4, false⟩⟩]
    joinRanked comments = comments := by
  decide

end LicenseText
