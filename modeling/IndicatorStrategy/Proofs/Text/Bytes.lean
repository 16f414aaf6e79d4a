import Mathlib
import IndicatorStrategy.Expression.Parser
/-!
# IndicatorStrategy.Proofs.Text.Bytes

**Texts that begin with the same bytes.** Positions count bytes, and two texts may agree
on some bytes of a character without agreeing on the character. A character of ASCII is
a single byte, though, that begins no other character: what two texts share up to some
byte they share as characters wherever one of them is ASCII (`SharesBytes.isPrefix`), and
whole characters that are shared come off the front (`SharesBytes.of_append`).
-/

namespace IndicatorStrategy

/-- The bytes of a text in UTF-8. -/
def bytes (cs : List Char) : List UInt8 := cs.flatMap String.utf8EncodeChar

theorem bytes_cons (c : Char) (cs : List Char) :
    bytes (c :: cs) = String.utf8EncodeChar c ++ bytes cs := rfl

theorem bytes_append (cs ds : List Char) : bytes (cs ++ ds) = bytes cs ++ bytes ds :=
  List.flatMap_append

theorem toUTF8_eq_bytes (s : String) : s.toUTF8.data.toList = bytes s.toList := by
  rw [String.toUTF8_eq_toByteArray, ← String.utf8Encode_toList, List.utf8Encode,
    List.data_toByteArray, List.toList_toArray, bytes]

theorem length_bytes (cs : List Char) : (bytes cs).length = Expression.byteLength cs := by
  induction cs with
  | nil => rfl
  | cons c cs ih =>
    rw [bytes_cons, List.length_append, String.length_utf8EncodeChar, ih, Expression.byteLength]

theorem byteLength_append (cs ds : List Char) :
    Expression.byteLength (cs ++ ds)
      = Expression.byteLength cs + Expression.byteLength ds := by
  rw [← length_bytes, bytes_append, List.length_append, length_bytes, length_bytes]

/-- The bytes of one text begin those of another just when its characters do. -/
theorem isPrefix_of_bytes {cs ds : List Char} (h : bytes cs <+: bytes ds) : cs <+: ds := by
  obtain ⟨rest, hrest⟩ := h
  refine List.isPrefix_of_utf8Encode_append_eq_utf8Encode rest.toByteArray ?_
  rw [List.utf8Encode, ← List.toByteArray_append, List.utf8Encode]
  exact congrArg List.toByteArray hrest

/-! ### ASCII -/

/-- A byte below 128 is a whole character. -/
theorem utf8EncodeChar_of_head {c a : Char} (ha : a.toNat < 128) {bs : List UInt8}
    (h : UInt8.ofNat a.toNat :: bs <+: String.utf8EncodeChar c) : c = a := by
  have hchar : c.val.toNat ≤ 127 → UInt8.ofNat a.toNat = UInt8.ofNat c.val.toNat → c = a := by
    intro hc heq
    have hval := congrArg UInt8.toNat heq
    simp only [UInt8.toNat_ofNat'] at hval
    refine Char.toNat_inj.mp ?_
    change c.val.toNat = a.toNat
    omega
  -- the first byte of a longer encoding is not below 128
  have hhigh : ∀ n m : Nat, 128 ≤ m → m < 256 → n < 128 → UInt8.ofNat n ≠ UInt8.ofNat m := by
    intro n m hm hm' hn heq
    have hval := congrArg UInt8.toNat heq
    simp only [UInt8.toNat_ofNat'] at hval
    omega
  unfold String.utf8EncodeChar at h
  simp only at h
  split at h
  · exact hchar ‹_› (List.cons_prefix_cons.mp h).1
  · split at h
    · exact absurd (List.cons_prefix_cons.mp h).1 (hhigh _ _ (by omega) (by omega) ha)
    · split at h
      · exact absurd (List.cons_prefix_cons.mp h).1 (hhigh _ _ (by omega) (by omega) ha)
      · exact absurd (List.cons_prefix_cons.mp h).1 (hhigh _ _ (by omega) (by omega) ha)

theorem utf8EncodeChar_of_lt {a : Char} (ha : a.toNat < 128) :
    String.utf8EncodeChar a = [UInt8.ofNat a.toNat] := by
  rw [String.utf8EncodeChar]
  exact if_pos (Nat.le_of_lt_succ ha)

/-! ### Shared bytes -/

/-- Two texts begin with the same `n` bytes. -/
def SharesBytes (n : Nat) (cs ds : List Char) : Prop :=
  ∃ common : List UInt8, common.length = n ∧ common <+: bytes cs ∧ common <+: bytes ds

namespace SharesBytes

variable {n : Nat} {cs ds : List Char}

theorem symm (h : SharesBytes n cs ds) : SharesBytes n ds cs := by
  obtain ⟨common, hlen, hcs, hds⟩ := h
  exact ⟨common, hlen, hds, hcs⟩

theorem of_isPrefix {common : List UInt8} (hcs : common <+: bytes cs)
    (hds : common <+: bytes ds) (h : n ≤ common.length) : SharesBytes n cs ds := by
  have htake := List.take_prefix n common
  exact ⟨common.take n, List.length_take_of_le h, htake.trans hcs, htake.trans hds⟩

/-- A text with some bytes in it is not empty. -/
theorem ne_nil (h : SharesBytes (n + 1) cs ds) : cs ≠ [] := by
  rintro rfl
  obtain ⟨common, hlen, hcs, -⟩ := h
  rw [List.prefix_nil.mp hcs] at hlen
  cases hlen

/-- Whole characters that are shared come off the front. -/
theorem of_append {front : List Char}
    (h : SharesBytes (Expression.byteLength front + n) (front ++ cs) ds) :
    ∃ ds', ds = front ++ ds' ∧ SharesBytes n cs ds' := by
  obtain ⟨common, hlen, hcs, hds⟩ := h
  rw [bytes_append] at hcs
  have hfront : bytes front <+: common :=
    List.prefix_of_prefix_length_le (List.prefix_append _ _) hcs
      (by rw [length_bytes, hlen]; omega)
  obtain ⟨ds', rfl⟩ := isPrefix_of_bytes (hfront.trans hds)
  obtain ⟨rest, rfl⟩ := hfront
  rw [bytes_append] at hds
  refine ⟨ds', rfl, rest, ?_, (List.prefix_append_right_inj _).mp hcs,
    (List.prefix_append_right_inj _).mp hds⟩
  rw [List.length_append, length_bytes] at hlen
  omega

/-- An ASCII character that one text begins with is shared as a character. -/
theorem of_cons {a : Char} (ha : a.toNat < 128) (h : SharesBytes (n + 1) cs (a :: ds)) :
    ∃ cs', cs = a :: cs' ∧ SharesBytes n cs' ds := by
  obtain ⟨c, cs, rfl⟩ := List.exists_cons_of_ne_nil h.ne_nil
  -- the first byte that is shared is all of `a`, and no other character starts with it
  have hc : c = a := by
    obtain ⟨common, hlen, hcs, hds⟩ := h
    obtain ⟨b, bs, rfl⟩ := List.exists_cons_of_length_eq_add_one hlen
    rw [bytes_cons, utf8EncodeChar_of_lt ha] at hds
    have hb : b = UInt8.ofNat a.toNat := (List.cons_prefix_cons.mp hds).1
    refine utf8EncodeChar_of_head ha (show [UInt8.ofNat a.toNat] <+: _ from ?_)
    refine List.prefix_of_prefix_length_le ?_ (List.prefix_append _ (bytes cs)) ?_
    · rw [← hb]
      exact (List.cons_prefix_cons.mpr ⟨rfl, List.nil_prefix⟩).trans hcs
    · have := c.utf8Size_pos
      rw [String.length_utf8EncodeChar, List.length_singleton]
      omega
  subst hc
  have hlen : Expression.byteLength [c] = 1 := by
    rw [← length_bytes, bytes_cons, utf8EncodeChar_of_lt ha]
    rfl
  obtain ⟨cs', hcs', hshares⟩ := (show SharesBytes (Expression.byteLength [c] + n)
    ([c] ++ ds) (c :: cs) by rw [hlen, Nat.add_comm]; exact h.symm).of_append
  exact ⟨cs', hcs', hshares.symm⟩

theorem of_word_append {word : List Char} (hword : ∀ a ∈ word, a.toNat < 128)
    (hlen : word.length ≤ n) (h : SharesBytes n (word ++ cs) ds) : word <+: ds := by
  induction word generalizing n ds with
  | nil => exact List.nil_prefix
  | cons a word ih =>
    obtain ⟨ha, hword⟩ := List.forall_mem_cons.mp hword
    obtain ⟨m, rfl⟩ : ∃ m, n = m + 1 := ⟨n - 1, by simp at hlen; omega⟩
    obtain ⟨ds', rfl, hshares⟩ := h.symm.of_cons ha
    rw [List.cons_prefix_cons]
    exact ⟨rfl, ih hword (by simpa using hlen) hshares.symm⟩

/-- **An ASCII text** is in front of one text just when it is in front of another one, if
they share as many bytes behind whatever characters both begin with. -/
theorem isPrefix {word : List Char} (front : List Char) (hword : ∀ a ∈ word, a.toNat < 128)
    (hlen : word.length ≤ n) (h : SharesBytes n cs ds) (hp : word <+: front ++ cs) :
    word <+: front ++ ds := by
  induction front generalizing word with
  | nil =>
    obtain ⟨cs', rfl⟩ := hp
    exact h.of_word_append hword hlen
  | cons c front ih =>
    cases word with
    | nil => exact List.nil_prefix
    | cons a word =>
      rw [List.cons_append, List.cons_prefix_cons] at hp ⊢
      exact ⟨hp.1, ih (List.forall_mem_cons.mp hword).2 (by simp at hlen; omega) hp.2⟩

end SharesBytes
end IndicatorStrategy
