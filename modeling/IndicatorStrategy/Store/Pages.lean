/-!
# IndicatorStrategy.Store.Pages

**Trees of pages**: how the entries of a database are spread over pages of one size.

A `PageTree` is kept level by level, from the leaves up, and each level from left to
right. A page with `n` cells has `n + 1` pages below it, and the pages below one page
follow those below the page before, so nothing has to say which page leads where.

* In a tree ordered by key every cell is an entry, on whatever level it lies. In one
  ordered by number the entries lie on the leaves, and a cell above them repeats the
  number of an entry to its left.
* A page that overflows, or that has more than two thirds of it free, is spread anew
  over itself and up to two neighbours (`respread`), which may go on in the level above
  (`settle`). A last leaf ordered by number that overflows starts a new one instead.
* A root that overflows gets a new root above it, and a root that lost its last cell
  gives way to the page below.
-/

namespace IndicatorStrategy

/-- What a page has of an entry, and the bytes that this takes. -/
structure Cell where
  key : String
  number : Nat
  size : Nat
  deriving DecidableEq

/-- The cells of a page from left to right. -/
abbrev Page := List Cell

namespace Page

/-- The bytes of a page. -/
def bytes : Nat := 4096

/-- The bytes that point to a cell from the head of its page. -/
def pointerSize : Nat := 2

/-- The bytes of a cell that lead to the page below it. -/
def linkSize : Nat := 4

/-- The bytes for cells: a page without its head, which has one link above the leaves. -/
def space (isLeaf : Bool) : Nat := if isLeaf then bytes - 8 else bytes - 8 - linkSize

/-- The bytes that a cell takes. -/
def taken (c : Cell) : Nat := c.size + pointerSize

/-- The bytes that cells take. -/
def used (p : Page) : Nat := p.foldl (fun n c => n + taken c) 0

/-- Whether cells do not fit. -/
def isOverfull (isLeaf : Bool) (p : Page) : Bool := space isLeaf < used p

/-- Whether a page may stay as it is: its cells fit and leave at most two thirds free. -/
def isSettled (isLeaf : Bool) (p : Page) : Bool :=
  !isOverfull isLeaf p && (space isLeaf - used p) * 3 ≤ bytes * 2

end Page

namespace PageTree

/-! ### Spreading cells over pages -/

/-- Pages filled one after the other, and the cells between them. If all cells are
kept on pages, there are none between. -/
def fill (limit : Nat) (keepsAll : Bool) (page : List Cell) : List Cell → List Page × List Cell
  | [] => ([page.reverse], [])
  | c :: cs =>
    if Page.used page + Page.taken c ≤ limit then fill limit keepsAll (c :: page) cs
    else if keepsAll then
      let (pages, between) := fill limit keepsAll [c] cs
      (page.reverse :: pages, between)
    else
      let (pages, between) := fill limit keepsAll [] cs
      (page.reverse :: pages, c :: between)

/-- Moves cells from the end of a page to the next page, which must not become fuller
than the page they come from. The cells of the first page stand in reverse. The last
page of all may become a little fuller. -/
def shift (isLast : Bool) : List Cell → Option Cell → Page → List Cell × Option Cell × Page
  | [], between?, right => ([], between?, right)
  | c :: left, between?, right =>
    let moved := between?.getD c
    let given := c.size + (if isLast then 0 else Page.pointerSize)
    if Page.used right ≠ 0 &&
        Page.used (c :: left) - given < Page.used right + Page.taken moved then
      (c :: left, between?, right)
    else shift isLast left (between?.map fun _ => c) (moved :: right)

/-- Evens out a page and those before it, nearest first, with the cells between them. -/
def evenOut (isLast : Bool) (right : Page) : List Page → List Cell → List Page × List Cell
  | [], _ => ([right], [])
  | left :: pages, between =>
    let (left, between?, right) := shift isLast left.reverse between.head? right
    let (pages, others) := evenOut false left.reverse pages between.tail
    (pages ++ [right], others ++ between?.toList)

/-- Cells on as few pages as can hold them, filled evenly, and the cells between. -/
def spread (limit : Nat) (keepsAll : Bool) (cells : List Cell) : List Page × List Cell :=
  let (pages, between) := fill limit keepsAll [] cells
  match pages.reverse with
  | [] => ([], [])
  | last :: others => evenOut true last others between.reverse

/-- The cells of pages and those between them. -/
def interleave : List Page → List Cell → List Cell
  | p :: ps, c :: cs => p ++ c :: interleave ps cs
  | ps, _ => ps.flatten

/-- The bytes of a number, seven bits in each. -/
def numberSize (n : Nat) : Nat := if n < 128 then 1 else 1 + numberSize (n / 128)

/-- The cell that stands above a page ordered by number. -/
def signpost (p : Page) : Option Cell :=
  p.getLast?.map fun c => ⟨"", c.number, Page.linkSize + numberSize c.number⟩

/-! ### Levels -/

/-- Where the pages below a page begin in the level below. -/
def firstBelow (level : List Page) (i : Nat) : Nat :=
  (level.take i).foldl (fun n p => n + (p.length + 1)) 0

/-- The page above the page at a place, and how many pages below that one come first. -/
def above : List Page → Nat → Nat × Nat
  | [], i => (0, i)
  | p :: ps, i =>
    if i ≤ p.length then (0, i)
    else
      let (j, k) := above ps (i - (p.length + 1))
      (j + 1, k)

/-- A level and the one above it after the page at a place and its neighbours were
spread anew. -/
def respread (byNumber isLeaf : Bool) (level parents : List Page) (i : Nat) :
    List Page × List Page :=
  let (j, k) := above parents i
  let parent := parents.getD j []
  let n := parent.length
  let first := if n < 2 then 0 else if k = n then n - 2 else k - 1
  let count := min n 2
  let start := firstBelow parents j + first
  let keepsAll := byNumber && isLeaf
  let link := if isLeaf then Page.linkSize else 0
  let between :=
    if keepsAll then []
    else ((parent.drop first).take count).map fun c => { c with size := c.size - link }
  let cells := interleave ((level.drop start).take (count + 1)) between
  let (pages, between) := spread (Page.space isLeaf) keepsAll cells
  let between :=
    if keepsAll then pages.dropLast.filterMap signpost
    else between.map fun c => { c with size := c.size + link }
  (level.take start ++ pages ++ level.drop (start + count + 1),
    parents.set j (parent.take first ++ between ++ parent.drop (first + count)))

/-- A level and the one above it after the last cell of the last page got a page of its
own. -/
def startPage (level parents : List Page) : List Page × List Page :=
  let page := level.getLastD []
  let parent := parents.getLastD []
  (level.dropLast ++ [page.dropLast, page.getLast?.toList],
    parents.dropLast ++ [parent ++ (signpost page.dropLast).toList])

/-- A level and the one above it after one that could not stay as it was. -/
def rearrange (byNumber isLeaf : Bool) (level parents : List Page) (i : Nat) :
    List Page × List Page :=
  if byNumber && isLeaf && Page.isOverfull isLeaf (level.getD i []) then
    startPage level parents
  else respread byNumber isLeaf level parents i

/-- A level and those above it once the page at a place can stay as it is, and how many
levels up that led. -/
def settle (byNumber isLeaf : Bool) (level : List Page) (i : Nat) :
    List (List Page) → List (List Page) × Nat
  | [] =>
    if Page.isOverfull isLeaf (level.getD i []) then
      let (level, root) := rearrange byNumber isLeaf level [[]] 0
      ([level, root], 1)
    else ([level], 0)
  | parents :: rest =>
    if Page.isSettled isLeaf (level.getD i []) then (level :: parents :: rest, 0)
    else
      let (j, _) := above parents i
      let (level, parents) := rearrange byNumber isLeaf level parents i
      if rest.isEmpty && parents = [[]] then ([level], 1)
      else
        let (levels, n) := settle byNumber false parents j rest
        (level :: levels, n + 1)

/-- The places that a search passes from a level down, if it begins at a page: the
search goes on below the first cell that does not lie before what is sought. -/
def descend (isBefore : Cell → Bool) : List (List Page) → Nat → List Nat
  | [], _ => []
  | level :: below, i =>
    let k := ((level.getD i []).takeWhile isBefore).length
    i :: descend isBefore below (firstBelow level i + k)

end PageTree

/-- A tree of pages: its levels from the leaves up. -/
structure PageTree where
  byNumber : Bool
  levels : List (List Page)
  deriving DecidableEq

namespace PageTree

/-- A tree of one page without cells. -/
def empty (byNumber : Bool) : PageTree := ⟨byNumber, [[[]]]⟩

/-- All cells, from the leaves up. -/
def cells (t : PageTree) : List Cell := t.levels.flatten.flatten

/-- The places of the pages that a search passes, from the leaf up. -/
def path (t : PageTree) (isBefore : Cell → Bool) : List Nat :=
  (descend isBefore t.levels.reverse 0).reverse

/-- Puts a cell behind those that lie before it. -/
def insert (t : PageTree) (isBefore : Cell → Bool) (c : Cell) : PageTree :=
  match t.levels with
  | [] => t
  | leaves :: rest =>
    let i := (t.path isBefore).headD 0
    let page := leaves.getD i []
    let page := page.takeWhile isBefore ++ c :: page.dropWhile isBefore
    let leaves := leaves.set i page
    if Page.isOverfull true page then { t with levels := (settle t.byNumber true leaves i rest).1 }
    else { t with levels := leaves :: rest }

/-- Settles a page on a level, counted from the leaves. -/
def settleAt (t : PageTree) (height i : Nat) : PageTree :=
  match t.levels.drop height with
  | [] => t
  | level :: rest =>
    let (levels, _) := settle t.byNumber (height = 0) level i rest
    { t with levels := t.levels.take height ++ levels }

/-- Takes a cell out of a page. -/
def without (isSought : Cell → Bool) (p : Page) : Page := p.filter (!isSought ·)

/-- Puts a cell from a leaf in the place of one above the leaves. -/
def replace (isSought : Cell → Bool) (c : Cell) (p : Page) : Page :=
  p.map fun old => if isSought old then { c with size := c.size + Page.linkSize } else old

/-- Takes out the cell that a search leads to. A cell above the leaves is replaced by
the one before it, which is the last of its leaf. -/
def erase (t : PageTree) (isBefore isSought : Cell → Bool) : PageTree :=
  match t.levels, t.path isBefore with
  | leaves :: rest, i :: places =>
    let page := leaves.getD i []
    if page.any isSought then
      { t with levels := (settle t.byNumber true (leaves.set i (without isSought page)) i rest).1 }
    else
      match page.getLast?, (rest.zip places).findIdx? fun p => (p.1.getD p.2 []).any isSought with
      | some c, some h =>
        let place := places.getD h 0
        let rest := rest.modify h fun level => level.modify place (replace isSought c)
        let (levels, n) := settle t.byNumber true (leaves.set i page.dropLast) i rest
        let t := { t with levels }
        if n ≤ h then t.settleAt (h + 1) place else t
      | _, _ => t
  | _, _ => t

end PageTree
end IndicatorStrategy
