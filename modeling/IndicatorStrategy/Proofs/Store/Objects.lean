import IndicatorStrategy.Proofs.Assoc
import IndicatorStrategy.Proofs.Json.Pretty
import IndicatorStrategy.Store.JsonFile
/-!
# IndicatorStrategy.Proofs.Store.Objects

**Texts that are objects of strings.** A text holds contents just when it is blank or one
object of strings (`JsonFile.parse_ok_iff`), where among members with one key the last
one counts. Contents that are written are such an object, with their pairs as its members.
-/

namespace IndicatorStrategy

/-! ### Pairs stored one after the other -/

namespace Assoc

variable {κ α : Type} [DecidableEq κ]

/-- Among pairs with one key, the one stored last counts. -/
theorem get?_foldl_putSorted [LT κ] [DecidableLT κ] (m ps : Assoc κ α) (key : κ) :
    get? (ps.foldl (fun m p => putSorted m p.1 p.2) m) key
      = (get? ps.reverse key).or (get? m key) := by
  induction ps generalizing m with
  | nil => simp
  | cons p ps ih =>
    have hp : get? (putSorted m p.1 p.2) key = (get? [p] key).or (get? m key) := by
      by_cases h : p.1 = key
      · rw [← h, get?_putSorted_self]
        simp [get?]
      · rw [get?_putSorted_of_ne _ _ h]
        simp [get?, h]
    rw [List.foldl_cons, ih, hp, List.reverse_cons, get?_append, Option.or_assoc]

end Assoc

namespace JsonFile

/-! ### Texts -/

/-- The members of an object of strings, in the order of its text. -/
def members (pairs : Assoc String String) : List (Option String × Json.Tree) :=
  pairs.map fun p => (some p.1, .string (some p.2))

/-- A text is one object of strings, with the given pairs as its members. -/
def IsObject (text : String) (pairs : Assoc String String) : Prop :=
  Json.Document.ofText text = ⟨.object (members pairs) true, true⟩

/-- What pairs come to that are stored one after the other. -/
def contentsOf (pairs : Assoc String String) : Contents :=
  pairs.foldl (fun m p => Assoc.putSorted m p.1 p.2) []

/-- What pairs say about a key: the last of them counts. -/
def lastOf (pairs : Assoc String String) (key : String) : Option String :=
  Assoc.get? pairs.reverse key

theorem get?_contentsOf (pairs : Assoc String String) :
    Assoc.get? (contentsOf pairs) = lastOf pairs := by
  funext key
  rw [contentsOf, Assoc.get?_foldl_putSorted, Assoc.get?_nil, Option.or_none, lastOf]

theorem toText_eq_ok_iff {t : Json.Tree} {s : String} :
    t.toText = .ok s ↔ t = .string (some s) := by
  constructor
  · intro h
    unfold Json.Tree.toText at h
    split at h
    · cases h
      rfl
    · cases h
  · rintro rfl
    rfl

/-- The pairs that members are decoded to. -/
theorem members_of_mapM {ms : List (Option String × Json.Tree)} {pairs : Assoc String String}
    {decode : Option String × Json.Tree → Except Json.DecodeError (String × String)}
    (hdecode : ∀ m p, decode m = .ok p → m = (some p.1, .string (some p.2)))
    (h : ms.mapM decode = .ok pairs) : ms = members pairs := by
  induction ms generalizing pairs with
  | nil =>
    cases h
    rfl
  | cons m ms ih =>
    rw [List.mapM_cons, bind_eq_ok_iff] at h
    obtain ⟨p, hm, h⟩ := h
    rw [bind_eq_ok_iff] at h
    obtain ⟨ps, hms, h⟩ := h
    cases h
    rw [hdecode m p hm, ih hms]
    rfl

theorem mapM_members (pairs : Assoc String String)
    {decode : Option String × Json.Tree → Except Json.DecodeError (String × String)}
    (h : ∀ key value, decode (some key, .string (some value)) = .ok (key, value)) :
    (members pairs).mapM decode = .ok pairs := by
  induction pairs with
  | nil => rfl
  | cons p pairs ih =>
    rw [members, List.map_cons, List.mapM_cons, h, ← members, ih]
    rfl

/-- An object of strings is decoded to what its members come to. -/
theorem toTexts_eq_ok_iff {tree : Json.Tree} {contents : Contents} :
    tree.toTexts = .ok contents ↔
      ∃ pairs, tree = .object (members pairs) true ∧ contents = contentsOf pairs := by
  constructor
  · intro h
    rw [Json.Tree.toTexts.eq_def] at h
    split at h
    · rename_i ms closed
      obtain ⟨pairs, hpairs, h⟩ := bind_eq_ok_iff.mp h
      split at h
      · rename_i hclosed
        cases h
        refine ⟨pairs, ?_, rfl⟩
        rw [hclosed, members_of_mapM ?_ hpairs]
        intro m p hm
        split at hm
        · cases hm
        · obtain ⟨s, hs, rfl⟩ := map_eq_ok_iff.mp hm
          rw [toText_eq_ok_iff.mp hs]
      · cases h
    · cases h
  · rintro ⟨pairs, rfl, rfl⟩
    rw [Json.Tree.toTexts, bind_eq_ok_iff]
    exact ⟨pairs, mapM_members pairs fun _ _ => rfl, rfl⟩

theorem decode_toTexts_eq_ok_iff {text : String} {contents : Contents} :
    Json.decode Json.Tree.toTexts text = .ok contents ↔
      ∃ pairs, IsObject text pairs ∧ contents = contentsOf pairs := by
  constructor
  · intro h
    rw [Json.decode] at h
    split at h
    · cases h
    · rename_i htree
      split at h
      · rename_i hcomplete
        cases h
        obtain ⟨pairs, hroot, rfl⟩ := toTexts_eq_ok_iff.mp htree
        exact ⟨pairs, by rw [IsObject, ← hroot, ← hcomplete], rfl⟩
      · cases h
  · rintro ⟨pairs, hobject, rfl⟩
    rw [Json.decode, hobject]
    simp only
    rw [toTexts_eq_ok_iff.mpr ⟨pairs, rfl, rfl⟩]
    rfl

/-! ### Blank texts -/

/-- No number begins with a blank. -/
theorem readNumber_of_isWhiteSpace {c : Char} (h : isWhiteSpace c = true) (cs : List Char) :
    Json.readNumber (c :: cs) = none := by
  cases hread : Json.readNumber (c :: cs) with
  | none => rfl
  | some r =>
    rcases Json.head_of_readNumber hread with rfl | hdigit
    · simp [isWhiteSpace] at h
    · obtain ⟨hlow, hhigh⟩ : 48 ≤ c.toNat ∧ c.toNat ≤ 57 := Char.isDigit_iff_toNat.mp hdigit
      simp [isWhiteSpace] at h
      omega

/-- A blank text has no token that a value could begin with. -/
theorem tokens_of_isWhiteSpace {cs : List Char} (h : ∀ c ∈ cs, isWhiteSpace c = true) :
    Json.tokens cs = [] ∨ Json.tokens cs = [.bad] := by
  induction cs with
  | nil => exact .inl Json.tokens_nil
  | cons c cs ih =>
    obtain ⟨hc, hcs⟩ := List.forall_mem_cons.mp h
    rw [Json.tokens.eq_def]
    split
    case h_12 heq =>
      cases heq
      split
      · exact ih hcs
      · split
        · exact .inr rfl
        · rename_i hread
          rw [readNumber_of_isWhiteSpace hc] at hread
          cases hread
    -- in every other case the first character is no blank
    all_goals
      rename_i heq
      cases heq
    all_goals exact absurd hc (by decide)

/-- So no value starts in it. -/
theorem document_of_isBlank {text : String} (h : isBlank text = true) :
    Json.Document.ofText text = ⟨.fault, false⟩ := by
  rw [Json.Document.ofText]
  rcases tokens_of_isWhiteSpace (List.all_eq_true.mp h) with htokens | htokens
  · rw [htokens]
    rfl
  · rw [htokens]
    rfl

theorem isBlank_of_isObject {text : String} {pairs : Assoc String String}
    (h : IsObject text pairs) : isBlank text = false := by
  refine eq_false_of_ne_true fun hblank => ?_
  rw [IsObject, document_of_isBlank hblank] at h
  simp at h

/-! ### Contents -/

/-- **What a text holds** as a store. -/
theorem parse_ok_iff {path text : String} {contents : Contents} :
    parse path text = .ok contents ↔
      isBlank text = true ∧ contents = [] ∨
        ∃ pairs, IsObject text pairs ∧ contents = contentsOf pairs := by
  rw [parse, ← decode_toTexts_eq_ok_iff]
  split
  · rename_i hblank
    constructor
    · intro h
      cases h
      exact .inl ⟨hblank, rfl⟩
    · rintro (⟨-, rfl⟩ | h)
      · rfl
      · obtain ⟨pairs, hobject, -⟩ := decode_toTexts_eq_ok_iff.mp h
        rw [isBlank_of_isObject hobject] at hblank
        cases hblank
  · rename_i hblank
    split
    · simp [*]
    · simp [*]

theorem ascending_contentsOf (pairs : Assoc String String) : Assoc.Ascending (contentsOf pairs) :=
  Assoc.ascending_nil.foldl_putSorted pairs

/-- Contents come to themselves. -/
theorem contentsOf_of_ascending {contents : Contents} (h : Assoc.Ascending contents) :
    contentsOf contents = contents := h.foldl_putSorted_eq

theorem memberTrees_eq_members (contents : Contents) :
    Json.memberTrees (contents.map fun p => (p.1, .string p.2)) = members contents := by
  induction contents with
  | nil => rfl
  | cons p contents ih =>
    rw [List.map_cons, Json.memberTrees, ih]
    rfl

theorem storable_object {contents : Contents} (h : (Assoc.keys contents).Nodup) :
    Json.Storable 1 (.object (contents.map fun p => (p.1, .string p.2))) := by
  refine .object ?_ fun p hp => ?_
  · rw [Assoc.keys, List.map_map]
    exact h
  · obtain ⟨q, -, rfl⟩ := List.mem_map.mp hp
    exact .string q.2

/-- **Contents that are written** are an object with their pairs as its members. -/
theorem isObject_render {contents : Contents} (h : (Assoc.keys contents).Nodup) :
    IsObject (render contents) contents := by
  rw [IsObject, render, (storable_object h).document_pretty, Json.tree, memberTrees_eq_members]

end JsonFile
end IndicatorStrategy
