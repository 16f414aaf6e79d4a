import IndicatorStrategy.Binary64.Basic
/-!
# IndicatorStrategy.Json.Basic

**JSON values** with the distinctions that stored artifacts keep: members stay in
the order in which they were written, and a number written as an integer is told
apart from a double. A double is finite, since JSON can write no other; it is given
by its sign and rank.
-/

namespace IndicatorStrategy

/-- A JSON value. -/
inductive Json
  | null
  | bool (value : Bool)
  | int (value : Int)
  | double (negative : Bool) (rank : Fin infinityRank)
  | string (value : String)
  | array (items : List Json)
  | object (members : List (String × Json))

end IndicatorStrategy
