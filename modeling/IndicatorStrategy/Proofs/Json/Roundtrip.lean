import IndicatorStrategy.Json.Decode
import IndicatorStrategy.Proofs.Json.Token
/-!
# IndicatorStrategy.Proofs.Json.Roundtrip

**Storable values read back.** The tokens of a value are gathered into its syntax tree,
whatever arrays and objects stand around it, and the tree decodes to the value again.
-/

namespace IndicatorStrategy
namespace Json

/-! ### Trees -/

mutual

/-- The syntax tree of a value. -/
def tree : Json → Tree
  | null => .null
  | bool b => .bool b
  | int n => .number (some (.int n))
  | double negative rank => .number (some (.double negative rank))
  | string s => .string (some s)
  | array items => .array (itemTrees items) true
  | object members => .object (memberTrees members) true

/-- The syntax trees of the items of an array. -/
def itemTrees : List Json → List Tree
  | [] => []
  | v :: vs => v.tree :: itemTrees vs

/-- The syntax trees of the members of an object. -/
def memberTrees : List (String × Json) → List (Option String × Tree)
  | [] => []
  | (k, v) :: ms => (some k, v.tree) :: memberTrees ms

end

/-- The tokens of a value are gathered into its tree inside any frames. -/
def Gathers (v : Json) : Prop :=
  ∀ stack ts, Tree.value stack (v.lexemes ++ ts) = Tree.after v.tree stack ts

/-- The tokens of items do not start like the end of an array. -/
theorem itemLexemes_ne_closeArray (v : Json) (vs : List Json) (ts us : List Token) :
    itemLexemes (v :: vs) ++ ts ≠ .closeArray :: us := by
  cases vs <;> cases v <;> simp [itemLexemes, lexemes]

theorem value_items {v : Json} {vs : List Json} (h : ∀ w ∈ v :: vs, Gathers w)
    (before : List Tree) (stack : List Tree.Frame) (ts : List Token) :
    Tree.value (.array before :: stack) (itemLexemes (v :: vs) ++ .closeArray :: ts)
      = Tree.after (.array (before.reverse ++ itemTrees (v :: vs)) true) stack ts := by
  -- the items read so far stand in the frame, so the frame grows with the induction
  induction vs generalizing v before with
  | nil =>
    rw [itemLexemes, h v (List.mem_cons_self ..), Tree.after]
    simp [itemTrees]
  | cons w ws ih =>
    have hws := ih (fun u hu => h u (List.mem_cons_of_mem _ hu)) (v.tree :: before)
    rw [itemLexemes, List.append_assoc, h v (List.mem_cons_self ..), List.cons_append,
      Tree.after, hws]
    · simp [itemTrees]
    · simp

/-- Members begin with the key and the colon of the first. -/
theorem memberLexemes_cons (k : String) (v : Json) (ms : List (String × Json)) :
    memberLexemes ((k, v) :: ms)
      = .string (some k) :: .colon :: (memberLexemes ((k, v) :: ms)).drop 2 := by
  cases ms <;> rfl

/-- Reading on behind the key of the first member. -/
theorem value_members {k : String} {v : Json} {ms : List (String × Json)}
    (h : ∀ p ∈ (k, v) :: ms, Gathers p.2) (before : List (Option String × Tree))
    (stack : List Tree.Frame) (ts : List Token) :
    Tree.value (.object before (some k) :: stack)
        ((memberLexemes ((k, v) :: ms)).drop 2 ++ .closeObject :: ts)
      = Tree.after (.object (before.reverse ++ memberTrees ((k, v) :: ms)) true) stack ts := by
  have hv : Gathers v := h (k, v) (List.mem_cons_self ..)
  induction ms generalizing k v before with
  | nil =>
    rw [memberLexemes, List.drop_succ_cons, List.drop_succ_cons, List.drop_zero, hv, Tree.after]
    simp [memberTrees]
  | cons p ms ih =>
    obtain ⟨l, w⟩ := p
    have htail : ∀ q ∈ (l, w) :: ms, Gathers q.2 := fun q hq => h q (List.mem_cons_of_mem _ hq)
    have hms := ih htail ((some k, v.tree) :: before) (htail (l, w) (List.mem_cons_self ..))
    have hdrop : (memberLexemes ((k, v) :: (l, w) :: ms)).drop 2
        = v.lexemes ++ .comma :: memberLexemes ((l, w) :: ms) := by
      simp [memberLexemes]
    rw [hdrop, memberLexemes_cons l w ms, List.append_assoc, hv, List.cons_append,
      List.cons_append, List.cons_append, Tree.after, hms]
    simp [memberTrees]

/-- **The tokens of a storable value** are gathered into its tree. -/
theorem Storable.gathers {depth : Nat} {v : Json} (h : Storable depth v) : Gathers v := by
  induction h with
  | null | bool | int | double | string => intro stack ts; rfl
  | @array _ items h ih =>
    intro stack ts
    cases items with
    | nil => rfl
    | cons v vs =>
      have hitems := value_items ih [] stack ts
      rw [lexemes, List.append_assoc, List.cons_append, List.singleton_append, Tree.value, hitems,
        List.reverse_nil, List.nil_append, tree]
      exact itemLexemes_ne_closeArray v vs _
  -- reading the brace takes the key and the colon of the first member with it
  | @object _ members hn h ih =>
    intro stack ts
    cases members with
    | nil => rfl
    | cons p ms =>
      obtain ⟨k, v⟩ := p
      have hmembers := value_members ih [] stack ts
      rw [lexemes, memberLexemes_cons k v ms, List.append_assoc, List.cons_append,
        List.cons_append, List.cons_append, List.singleton_append, Tree.value, hmembers,
        List.reverse_nil, List.nil_append, tree]

/-- The document of a storable value is its tree, and nothing follows. -/
theorem Storable.document {depth : Nat} {v : Json} (h : Storable depth v) :
    Document.ofText v.compact = ⟨v.tree, true⟩ := by
  have hlexes := h.lexes [] Stops.nil
  have hgathers := h.gathers [] []
  rw [List.append_nil, tokens_nil] at hlexes
  rw [Document.ofText, hlexes, hgathers]
  rfl

/-! ### Decoding -/

theorem toItems_itemTrees {depth : Nat} {items : List Json}
    (h : ∀ v ∈ items, v.tree.toJson depth = .ok v) :
    Tree.toItems depth (itemTrees items) = .ok items := by
  induction items with
  | nil => rfl
  | cons v vs ih =>
    rw [itemTrees, Tree.toItems, h v (List.mem_cons_self ..)]
    simp only
    rw [ih fun w hw => h w (List.mem_cons_of_mem _ hw)]

theorem toMembers_memberTrees {depth : Nat} {before members : List (String × Json)}
    (hn : (Assoc.keys (before ++ members)).Nodup)
    (h : ∀ p ∈ members, p.2.tree.toJson depth = .ok p.2) :
    Tree.toMembers depth before (memberTrees members) = .ok (before ++ members) := by
  induction members generalizing before with
  | nil => simp [memberTrees, Tree.toMembers]
  | cons p ms ih =>
    obtain ⟨k, v⟩ := p
    have hk : k ∉ Assoc.keys before := by
      intro hmem
      rw [Assoc.keys, List.map_append, List.nodup_append] at hn
      exact hn.2.2 _ hmem _ (List.mem_cons_self ..) rfl
    rw [memberTrees, Tree.toMembers, h (k, v) (List.mem_cons_self ..)]
    simp only
    rw [Assoc.put_of_not_mem hk, ih (by simpa using hn)
      fun q hq => h q (List.mem_cons_of_mem _ hq), List.append_assoc, List.singleton_append]

/-- **The tree of a storable value** decodes to the value. -/
theorem Storable.toJson_tree {depth : Nat} {v : Json} (h : Storable depth v) :
    v.tree.toJson depth = .ok v := by
  induction h with
  | null | bool | int | double | string => rfl
  | array h ih =>
    rw [tree, Tree.toJson]
    simp only
    rw [toItems_itemTrees ih]
    rfl
  | object hn h ih =>
    rw [tree, Tree.toJson]
    simp only
    rw [toMembers_memberTrees (show (Assoc.keys ([] ++ _)).Nodup from hn) ih]
    rfl

end Json
end IndicatorStrategy
