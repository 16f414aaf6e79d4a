import IndicatorStrategy.Proofs.Json.Roundtrip
/-!
# IndicatorStrategy.Proofs.Json.Decoded

**What is decoded can be stored.** Whatever text a value was read from, its integers have
64 bits, since a greater one is read as a double; no key of an object repeats, since a
repeated one takes its first place; and it is nested no deeper than was allowed. So it is
`Storable`, and its own text reads back as the same value.

The numbers of a value come from the lexemes of the text. `IsLexical` says so of a token and
of a tree, and is kept while tokens are gathered into trees.
-/

namespace IndicatorStrategy
namespace Json

/-! ### Lexemes -/

/-- The values that number lexemes have. -/
inductive IsNumber : Json → Prop
  | int {n : Int} (h : IsWord n) : IsNumber (.int n)
  | double (negative : Bool) (rank : Fin infinityRank) : IsNumber (.double negative rank)

variable {v : Json} {depth : Nat}

theorem IsNumber.storable (h : IsNumber v) : Storable depth v := by
  cases h with
  | int hn => exact .int hn
  | double negative rank => exact .double negative rank

theorem isNumber_of_double? {d : Decimal} (h : double? d = some v) : IsNumber v := by
  unfold double? at h
  split at h
  · cases h
    exact .double ..
  · cases h

theorem isNumber_of_integerValue? {negative : Bool} {ds : List Char}
    (h : integerValue? negative ds = some v) : IsNumber v := by
  unfold integerValue? at h
  simp only at h
  split at h
  · split at h
    · exact isNumber_of_double? h
    · rename_i hn
      cases h
      exact .int ⟨by omega, by simp only [Numeral.limit64]; omega⟩
  · split at h
    · cases h
      exact .int ⟨by simp only [Numeral.limit63]; omega, by omega⟩
    · exact isNumber_of_double? h

theorem isNumber_of_readMagnitude {negative : Bool} {cs rest : List Char}
    (h : readMagnitude negative cs = some (some v, rest)) : IsNumber v := by
  unfold readMagnitude at h
  simp only at h
  split at h
  · cases h
  · split at h
    · cases h
    · split at h
      · cases h
      · split at h
        · exact isNumber_of_integerValue? (Prod.mk.inj (Option.some.inj h)).1
        · exact isNumber_of_double? (Prod.mk.inj (Option.some.inj h)).1
      · exact isNumber_of_double? (Prod.mk.inj (Option.some.inj h)).1

theorem isNumber_of_readNumber {cs rest : List Char}
    (h : readNumber cs = some (some v, rest)) : IsNumber v := by
  unfold readNumber at h
  split at h
  · exact isNumber_of_readMagnitude h
  · exact isNumber_of_readMagnitude h

/-- A number among the tokens is the value of a lexeme. -/
def Token.IsLexical : Token → Prop
  | .number (some v) => IsNumber v
  | _ => True

theorem isLexical_number {n : Option Json} {cs rest : List Char}
    (h : readNumber cs = some (n, rest)) : (Token.number n).IsLexical := by
  cases n with
  | none => trivial
  | some v => exact isNumber_of_readNumber h

/-- **The tokens of a text** have their numbers from it. -/
theorem isLexical_of_mem_tokens (cs : List Char) : ∀ t ∈ tokens cs, t.IsLexical := by
  fun_induction tokens cs
  case case15 hnumber ih => exact List.forall_mem_cons.mpr ⟨isLexical_number hnumber, ih⟩
  -- no other lexeme is a number
  all_goals simp_all [Token.IsLexical]

/-! ### Trees -/

namespace Tree

/-- Every number in a tree is the value of a lexeme. -/
inductive IsLexical : Tree → Prop
  | null : IsLexical .null
  | bool (b : Bool) : IsLexical (.bool b)
  | number {v? : Option Json} (h : ∀ v ∈ v?, IsNumber v) : IsLexical (.number v?)
  | string (s? : Option String) : IsLexical (.string s?)
  | array {items : List Tree} {closed : Bool} (h : ∀ t ∈ items, IsLexical t) :
      IsLexical (.array items closed)
  | object {members : List (Option String × Tree)} {closed : Bool}
      (h : ∀ p ∈ members, IsLexical p.2) : IsLexical (.object members closed)
  | fault : IsLexical .fault

/-- What an unfinished array or object holds so far. -/
def Frame.IsLexical : Frame → Prop
  | .array items => ∀ t ∈ items, t.IsLexical
  | .object members _ => ∀ p ∈ members, p.2.IsLexical

namespace Frame

theorem isLexical_array_nil : (array []).IsLexical := List.forall_mem_nil _

theorem isLexical_object_nil (key : Option String) : (object [] key).IsLexical :=
  List.forall_mem_nil _

variable {t : Tree} {items : List Tree} {members : List (Option String × Tree)}
  {key : Option String}

theorem isLexical_array_cons (h : (array items).IsLexical) (ht : t.IsLexical) :
    (array (t :: items)).IsLexical :=
  List.forall_mem_cons.mpr ⟨ht, h⟩

theorem isLexical_object_cons (h : (object members key).IsLexical) (ht : t.IsLexical)
    (next : Option String) : (object ((key, t) :: members) next).IsLexical :=
  List.forall_mem_cons.mpr ⟨ht, h⟩

theorem isLexical_reverse_array (h : (array items).IsLexical) (closed : Bool) :
    (Tree.array items.reverse closed).IsLexical :=
  .array fun u hu => h u (List.mem_reverse.mp hu)

theorem isLexical_reverse_object (h : (object members key).IsLexical) (closed : Bool) :
    (Tree.object members.reverse closed).IsLexical :=
  .object fun p hp => h p (List.mem_reverse.mp hp)

theorem IsLexical.leave {frame : Frame} (h : frame.IsLexical) (ht : t.IsLexical) :
    (frame.leave t).IsLexical := by
  cases frame with
  | array items => exact isLexical_reverse_array (isLexical_array_cons h ht) false
  | object members key =>
    exact isLexical_reverse_object (isLexical_object_cons h ht key) false

end Frame

theorem isLexical_abandon {stack : List Frame} (hstack : ∀ f ∈ stack, f.IsLexical) {t : Tree}
    (ht : t.IsLexical) : (abandon stack t).root.IsLexical := by
  unfold abandon
  induction stack generalizing t with
  | nil => exact ht
  | cons f fs ih =>
    obtain ⟨hf, hfs⟩ := List.forall_mem_cons.mp hstack
    exact ih hfs (hf.leave ht)

/-- **Gathering tokens** puts no number into the tree, whether a value comes next or has
just come. -/
theorem isLexical_gathered {ts : List Token} (hts : ∀ t ∈ ts, t.IsLexical) {stack : List Frame}
    (hstack : ∀ f ∈ stack, f.IsLexical) :
    (value stack ts).root.IsLexical ∧
      ∀ t : Tree, t.IsLexical → (after t stack ts).root.IsLexical := by
  -- the two readers call each other on what follows a token, so the length carries both
  induction hlen : ts.length using Nat.strong_induction_on generalizing ts stack with
  | _ n ih =>
    subst hlen
    have hvalue {us : List Token} (hlt : us.length < ts.length) (hus : us ⊆ ts)
        {stack : List Frame} (hstack : ∀ f ∈ stack, f.IsLexical) :
        (value stack us).root.IsLexical :=
      (ih _ hlt (fun t ht => hts t (hus ht)) hstack rfl).1
    have hafter {us : List Token} (hlt : us.length < ts.length) (hus : us ⊆ ts)
        {stack : List Frame} (hstack : ∀ f ∈ stack, f.IsLexical) {t : Tree} (ht : t.IsLexical) :
        (after t stack us).root.IsLexical :=
      (ih _ hlt (fun t ht => hts t (hus ht)) hstack rfl).2 t ht
    constructor
    · unfold value
      split
      · exact hafter (by simp) (by simp) hstack .null
      · exact hafter (by simp) (by simp) hstack (.bool _)
      · rename_i n ts
        refine hafter (by simp) (by simp) hstack (.number fun v hv => ?_)
        have hlexeme := hts _ (List.mem_cons_self ..)
        rwa [hv] at hlexeme
      · exact hafter (by simp) (by simp) hstack (.string _)
      · exact hafter (by simp) (by simp) hstack (.array (List.forall_mem_nil _))
      · exact hvalue (by simp) (by simp)
          (List.forall_mem_cons.mpr ⟨Frame.isLexical_array_nil, hstack⟩)
      · exact hafter (by simp) (by simp) hstack (.object (List.forall_mem_nil _))
      · exact hvalue (by grind) (by grind)
          (List.forall_mem_cons.mpr ⟨Frame.isLexical_object_nil _, hstack⟩)
      · exact isLexical_abandon
          (List.forall_mem_cons.mpr ⟨Frame.isLexical_object_nil _, hstack⟩) .fault
      · exact isLexical_abandon hstack (.object (List.forall_mem_nil _))
      · exact isLexical_abandon hstack .fault
    · intro t ht
      unfold after
      split
      · exact ht
      · obtain ⟨hitems, hstack⟩ := List.forall_mem_cons.mp hstack
        exact hvalue (by grind) (by grind)
          (List.forall_mem_cons.mpr ⟨Frame.isLexical_array_cons hitems ht, hstack⟩)
      · obtain ⟨hitems, hstack⟩ := List.forall_mem_cons.mp hstack
        exact hafter (by grind) (by grind) hstack
          (Frame.isLexical_reverse_array (Frame.isLexical_array_cons hitems ht) true)
      · obtain ⟨hmembers, hstack⟩ := List.forall_mem_cons.mp hstack
        exact hvalue (by grind) (by grind)
          (List.forall_mem_cons.mpr ⟨Frame.isLexical_object_cons hmembers ht _, hstack⟩)
      · obtain ⟨hmembers, hstack⟩ := List.forall_mem_cons.mp hstack
        exact isLexical_abandon
          (List.forall_mem_cons.mpr ⟨Frame.isLexical_object_cons hmembers ht _, hstack⟩) .fault
      · obtain ⟨hmembers, hstack⟩ := List.forall_mem_cons.mp hstack
        exact hafter (by grind) (by grind) hstack
          (Frame.isLexical_reverse_object (Frame.isLexical_object_cons hmembers ht none) true)
      · obtain ⟨hframe, hstack⟩ := List.forall_mem_cons.mp hstack
        exact isLexical_abandon hstack (hframe.leave ht)

end Tree

theorem Document.isLexical_ofText (text : String) : (Document.ofText text).root.IsLexical :=
  (Tree.isLexical_gathered (isLexical_of_mem_tokens text.toList) (List.forall_mem_nil _)).1

/-! ### Values -/

theorem storable_of_toItems {ts : List Tree}
    (h : ∀ t ∈ ts, ∀ v, t.toJson depth = .ok v → Storable depth v) {vs : List Json}
    (hvs : Tree.toItems depth ts = .ok vs) : ∀ v ∈ vs, Storable depth v := by
  induction ts generalizing vs with
  | nil =>
    cases hvs
    exact List.forall_mem_nil _
  | cons t ts ih =>
    obtain ⟨ht, hts⟩ := List.forall_mem_cons.mp h
    rw [Tree.toItems] at hvs
    split at hvs
    · cases hvs
    · rename_i v hv
      split at hvs
      · cases hvs
      · rename_i vs hvs'
        cases hvs
        exact List.forall_mem_cons.mpr ⟨ht v hv, ih hts hvs'⟩

/-- Members that are put one after the other have no key twice. -/
theorem storable_of_toMembers {ms : List (Option String × Tree)}
    (h : ∀ p ∈ ms, ∀ v, p.2.toJson depth = .ok v → Storable depth v)
    {before members : Assoc String Json} (hn : (Assoc.keys before).Nodup)
    (hbefore : ∀ p ∈ before, Storable depth p.2)
    (hmembers : Tree.toMembers depth before ms = .ok members) :
    (Assoc.keys members).Nodup ∧ ∀ p ∈ members, Storable depth p.2 := by
  induction ms generalizing before with
  | nil =>
    cases hmembers
    exact ⟨hn, hbefore⟩
  | cons p ms ih =>
    obtain ⟨key?, t⟩ := p
    obtain ⟨ht, hms⟩ := List.forall_mem_cons.mp h
    cases key? with
    | none => cases hmembers
    | some key =>
      rw [Tree.toMembers] at hmembers
      split at hmembers
      · cases hmembers
      -- a key that comes again replaces its value, so what was put before stays in the induction
      · rename_i v hv
        refine ih hms (Assoc.nodup_keys_put hn key v) (fun q hq => ?_) hmembers
        rcases Assoc.mem_put hq with rfl | hq
        · exact ht v hv
        · exact hbefore q hq

/-- **What a tree decodes to** is storable, if its numbers come from lexemes. -/
theorem Tree.IsLexical.storable {t : Tree} (ht : t.IsLexical) (h : t.toJson depth = .ok v) :
    Storable depth v := by
  -- the depth is spent where an array or an object is entered, and nowhere else
  induction ht generalizing depth v with
  | null => cases h; exact .null
  | bool b => cases h; exact .bool b
  | @number v? hv =>
    cases v? with
    | none => cases h
    | some v =>
      cases h
      exact (hv v rfl).storable
  | string s? =>
    cases s? with
    | none => cases h
    | some s => cases h; exact .string s
  | @array items closed _ ih =>
    cases depth with
    | zero => cases h
    | succ depth =>
      rw [Tree.toJson] at h
      split at h
      · cases h
      · rename_i vs hvs
        split at h
        · cases h
          exact .array (storable_of_toItems (fun t ht v => ih t ht) hvs)
        · cases h
  | @object members closed _ ih =>
    cases depth with
    | zero => cases h
    | succ depth =>
      rw [Tree.toJson] at h
      split at h
      · cases h
      · rename_i ms hms
        split at h
        · cases h
          have hnil : (Assoc.keys ([] : Assoc String Json)).Nodup := List.nodup_nil
          obtain ⟨hn, hall⟩ := storable_of_toMembers (fun p hp v => ih p hp) hnil
            (List.forall_mem_nil _) hms
          exact .object hn hall
        · cases h
  | fault => cases h

/-! ### Whole texts -/

theorem decode_eq_ok_iff {α : Type} {decoder : Tree → Except DecodeError α} {text : String}
    {a : α} : decode decoder text = .ok a ↔
      decoder (Document.ofText text).root = .ok a ∧ (Document.ofText text).complete = true := by
  unfold decode
  obtain ⟨root, complete⟩ := Document.ofText text
  cases hroot : decoder root with
  | error e => simp [hroot]
  | ok b => cases complete <;> simp [hroot]

/-- The text of a storable value is decoded as the tree of the value. -/
theorem Storable.decode_compact {α : Type} {decoder : Tree → Except DecodeError α} {a : α}
    (h : Storable depth v) (ha : decoder v.tree = .ok a) : decode decoder v.compact = .ok a := by
  rw [decode_eq_ok_iff, h.document]
  exact ⟨ha, rfl⟩

end Json
end IndicatorStrategy
