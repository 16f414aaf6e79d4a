import IndicatorStrategy.Store.Pages
/-!
# IndicatorStrategy.Store.Head

The **head of a file** that should hold a database, for a file that holds a text
instead. A text too short to count is as good as none. A text whose head is in order all
the same is a damaged database, and any other one is none.
-/

namespace IndicatorStrategy

/-- What the head of a text says. -/
structure Head where
  /-- Whether the text is no database at all. -/
  isForeign : Bool
  /-- Whether the file may only be read from now on, whatever else is wrong with it. -/
  isSealed : Bool
  deriving DecidableEq

namespace Head

/-- Whether a text is so short that it counts as nothing. -/
def isVoid (text : String) : Bool := text.utf8ByteSize ≤ 1

/-- The beginning of every database file. -/
def mark : String := "SQLite format 3\x00"

/-- A byte of a text; those behind its end are zero. -/
def byte (text : String) (i : Nat) : Nat := (text.toUTF8.data.getD i 0).toNat

/-- Four bytes as a number, the greatest part first. -/
def number (text : String) (i : Nat) : Nat :=
  ((byte text i * 256 + byte text (i + 1)) * 256 + byte text (i + 2)) * 256
    + byte text (i + 3)

/-- The bytes of a page. -/
def pageBytes (text : String) : Nat := byte text 16 * 256 + byte text 17 * 65536

/-- The sizes that a page may have. -/
def pageSizes : List Nat := (List.range 8).map fun k => 512 * Nat.pow 2 k

/-- The pages that a text fills. -/
def pagesFilled (text : String) : Nat :=
  (text.utf8ByteSize + pageBytes text - 1) / pageBytes text

/-- The pages that the head counts; a count that was not kept up to date says nothing. -/
def pagesCounted (text : String) : Nat :=
  if number text 24 = number text 92 && number text 28 ≠ 0 then number text 28
  else pagesFilled text

/-- The shares of a page that its cells may take. -/
def hasShares (text : String) : Bool :=
  byte text 21 = 64 && byte text 22 = 32 && byte text 23 = 32

/-- The greatest version that is known. -/
def version : Nat := 2

/-- Whether the head is not that of a database. -/
def isNone (text : String) : Bool :=
  !mark.toList.isPrefixOf text.toList || version < byte text 19 || !hasShares text ||
    pageBytes text ∉ pageSizes ||
    (pagesCounted text ≤ pagesFilled text && pageBytes text < 480 + byte text 20)

/-- What the head of a text says. -/
def ofText (text : String) : Head where
  isForeign := isNone text
  isSealed := mark.toList.isPrefixOf text.toList && version < byte text 18

end Head
end IndicatorStrategy
