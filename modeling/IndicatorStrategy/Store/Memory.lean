import IndicatorStrategy.Assoc
import IndicatorStrategy.Store.Action
/-!
# IndicatorStrategy.Store.Memory

**Stores in memory.** `Memory` never fails. `Faulty` is a memory whose reads and
writes fail for chosen keys, which leaves its contents as they are.
-/

namespace IndicatorStrategy

/-- The contents of a store, ascending by key. -/
abbrev Contents := Assoc String String

/-- A store that lives as long as its process. -/
structure Memory where
  contents : Contents
  deriving DecidableEq

namespace Memory

/-- Nothing stored. -/
def empty : Memory := ⟨[]⟩

instance : KeyValue Memory where
  get s key := (.ok (Assoc.get? s.contents key), s)
  set s key value := (.ok (), ⟨Assoc.putSorted s.contents key value⟩)

@[simp] theorem get_eq (s : Memory) (key : String) :
    KeyValue.get s key = (.ok (Assoc.get? s.contents key), s) := rfl

@[simp] theorem set_eq (s : Memory) (key value : String) :
    KeyValue.set s key value = (.ok (), ⟨Assoc.putSorted s.contents key value⟩) := rfl

end Memory

/-- A memory that refuses to read or to write some keys. -/
structure Faulty where
  contents : Contents
  unreadable : List String
  unwritable : List String
  deriving DecidableEq

namespace Faulty

instance : KeyValue Faulty where
  get s key :=
    if key ∈ s.unreadable then (.error (.store ("get " ++ key)), s)
    else (.ok (Assoc.get? s.contents key), s)
  set s key value :=
    if key ∈ s.unwritable then (.error (.query ("set " ++ key)), s)
    else (.ok (), { s with contents := Assoc.putSorted s.contents key value })

end Faulty
end IndicatorStrategy
