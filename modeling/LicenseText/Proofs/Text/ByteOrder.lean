import LicenseText.Text.Utf8

/-!
# The order of texts as byte strings

Texts are compared by their characters, and the names of files by their bytes. UTF-8 keeps
the order: the bytes of two different characters differ where neither has ended, and the
smaller character has the smaller byte there. So a text that sorts before a different one
stands before it as a byte string, too.
-/

namespace LicenseText

/-! ## Sorting -/

section Sorting

variable {α : Type} {number : α → Nat} {r s t : List α}

theorem comesBefore_trans (hrs : comesBefore number r s) (hst : comesBefore number s t) :
    comesBefore number r t := by
  induction r generalizing s t with
  | nil => rfl
  | cons x r ih =>
      cases s with
      | nil => contradiction
      | cons y s =>
          cases t with
          | nil => contradiction
          | cons z t =>
              simp only [comesBefore, Bool.or_eq_true, Bool.and_eq_true, decide_eq_true_eq,
                beq_iff_eq] at hrs hst ⊢
              rcases hrs with hrs | ⟨hxy, hrs⟩
              · rcases hst with hst | ⟨hyz, -⟩
                · exact .inl (Nat.lt_trans hrs hst)
                · exact .inl (hyz ▸ hrs)
              · rw [hxy]
                exact hst.imp_right fun hst => ⟨hst.1, ih hrs hst.2⟩

theorem comesBefore_total (number : α → Nat) (s t : List α) :
    (comesBefore number s t || comesBefore number t s) = true := by
  induction s generalizing t with
  | nil => rfl
  | cons x s ih =>
      cases t with
      | nil => rfl
      | cons y t =>
          rcases Nat.lt_trichotomy (number x) (number y) with hlt | heq | hgt
          · simp [comesBefore, hlt]
          · simpa [comesBefore, heq] using ih t
          · simp [comesBefore, hgt]

/-- Of two different lists the one that comes first has the smaller element where they
first differ, or ends there. -/
theorem lex_of_comesBefore (hinj : ∀ x y, number x = number y → x = y)
    (h : comesBefore number s t) (hne : s ≠ t) :
    List.Lex (fun x y => number x < number y) s t := by
  induction s generalizing t with
  | nil =>
      cases t with
      | nil => contradiction
      | cons y t => exact .nil
  | cons x s ih =>
      cases t with
      | nil => contradiction
      | cons y t =>
          rw [comesBefore, Bool.or_eq_true, Bool.and_eq_true, decide_eq_true_eq,
            beq_iff_eq] at h
          rcases h with h | ⟨heq, hrest⟩
          · exact .rel h
          · obtain rfl := hinj x y heq
            exact .cons (ih hrest fun heq => hne (congrArg (x :: ·) heq))

end Sorting

namespace Bytes

/-- Whether a byte string stands before another: it has the smaller byte where they first
differ, or ends there. -/
def Before (s t : Bytes) : Prop := List.Lex (fun x y => x.toNat < y.toNat) s t

theorem not_before_self (b : Bytes) : ¬Before b b :=
  List.lex_irrefl (fun x => Nat.lt_irrefl x.toNat) _

theorem before_asymm {s t : Bytes} (h : Before s t) : ¬Before t s :=
  List.lex_asymm Nat.lt_asymm h

theorem before_of_sortsBefore {s t : Bytes} (h : sortsBefore s t) (hne : s ≠ t) :
    Before s t :=
  lex_of_comesBefore (fun _ _ => UInt8.toNat_inj.mp) h hne

theorem before_append (front : Bytes) {s t : Bytes} (h : Before s t) :
    Before (front ++ s) (front ++ t) := by
  induction front with
  | nil => exact h
  | cons x front ih => exact .cons ih

theorem before_ofNat_cons {m n : Nat} (hm : m < 256) (hn : n < 256) {s t : Bytes} :
    Before (UInt8.ofNat m :: s) (UInt8.ofNat n :: t) ↔ m < n ∨ m = n ∧ Before s t := by
  rw [Before, List.cons_lex_cons_iff, ← UInt8.toNat_inj, UInt8.toNat_ofNat',
    UInt8.toNat_ofNat', Nat.mod_eq_of_lt hm, Nat.mod_eq_of_lt hn]
  rfl

/-- The bytes of a smaller character stand before those of a larger one, whatever follows
them. -/
theorem before_encodeChar {c d : Char} (h : c.toNat < d.toNat) (s t : Bytes) :
    Before (String.utf8EncodeChar c ++ s) (String.utf8EncodeChar d ++ t) := by
  have hd : d.val.toNat < 0x110000 := by
    have hvalid := d.valid
    simp only [UInt32.isValidChar, Nat.isValidChar] at hvalid
    omega
  -- the bytes behind the first one are digits to the base 64
  have hdigits : ∀ n, n / 4096 = n / 64 / 64 ∧ n / 262144 = n / 64 / 64 / 64 := by omega
  simp only [Char.toNat] at h
  simp only [String.utf8EncodeChar, hdigits]
  generalize c.val.toNat = v at h ⊢
  generalize d.val.toNat = w at h hd ⊢
  repeat' split
  all_goals
    simp (disch := omega) only [List.cons_append, List.nil_append, before_ofNat_cons]
    omega

end Bytes

namespace Text

/-- Whether a text stands before another in the order of their bytes. -/
def ByteBefore (s t : Text) : Prop := Bytes.Before s.bytes t.bytes

theorem bytes_cons (c : Char) (t : Text) :
    bytes (c :: t) = String.utf8EncodeChar c ++ bytes t :=
  List.flatMap_cons

theorem byteBefore_of_lex {s t : Text} (h : List.Lex (fun c d => c.toNat < d.toNat) s t) :
    s.ByteBefore t := by
  induction h with
  | @nil d t =>
      obtain ⟨x, rest, hbytes⟩ :=
        List.exists_cons_of_ne_nil (String.utf8EncodeChar_ne_nil (c := d))
      rw [ByteBefore, bytes_cons, hbytes]
      exact .nil
  | rel hlt =>
      rw [ByteBefore, bytes_cons, bytes_cons]
      exact Bytes.before_encodeChar hlt _ _
  | cons _ ih =>
      rw [ByteBefore, bytes_cons, bytes_cons]
      exact Bytes.before_append _ ih

/-- Of two different texts the one that sorts first stands first in the order of bytes. -/
theorem byteBefore_of_sortsBefore {s t : Text} (h : s.sortsBefore t) (hne : s ≠ t) :
    s.ByteBefore t :=
  byteBefore_of_lex (lex_of_comesBefore (fun _ _ => Char.toNat_inj.mp) h hne)

theorem byteBefore_asymm {s t : Text} (h : s.ByteBefore t) : ¬t.ByteBefore s :=
  Bytes.before_asymm h

theorem sortsBefore_trans {r s t : Text} (hrs : r.sortsBefore s) (hst : s.sortsBefore t) :
    r.sortsBefore t :=
  comesBefore_trans hrs hst

theorem sortsBefore_total (s t : Text) : (s.sortsBefore t || t.sortsBefore s) = true :=
  comesBefore_total Char.toNat s t

end Text

end LicenseText
