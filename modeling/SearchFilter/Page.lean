import SearchFilter.Value.Members

/-!
# Pages of results

One page of the hits of a search, with the total number of entries and the place of the page.

The number of pages is the ceiling of a quotient in double precision, and at least one.  Numbers of
pages beyond the range of double precision are a failure.

`records` are the sources of the hits, each with the identifier of its hit in front; a source that
has an identifier of its own keeps that one.
-/

namespace SearchFilter

open SearchFilter.Number

/-- One page of search results. -/
structure Page where
  hits : Value
  totalEntries : Int
  perPage : Int
  currentPage : Int
  /-- The response that the page was made from. -/
  raw : Value

namespace Page

/-! ## Hits and records -/

/-- The hits one by one. -/
def hitList (page : Page) : Except Failure (List Value) :=
  match page.hits.elements? with
  | some hits => .ok hits
  | none => .error .wrongType

/-- The record of a hit. -/
def recordOf (hit : Value) : Except Failure Value := do
  let id ← hit.getOr "_id" .null
  match ← hit.getOr "_source" (.map []) with
  | .map source => return .map (Entries.putAll [(.text "_id", id)] source)
  | _ => .error .wrongType

/-- The records of the hits. -/
def records (page : Page) : Except Failure (List Value) :=
  page.hitList.bind fun hits => hits.mapM recordOf

/-- The records, each with its hit. -/
def withHits (page : Page) : Except Failure (List (Value × Value)) := do
  return (← page.records).zip (← page.hitList)

/-- The number of hits. -/
def size (page : Page) : Except Failure Nat :=
  page.hitList.map List.length

/-- Whether there are no hits. -/
def isEmpty (page : Page) : Bool :=
  !page.hits.isFilled

/-- An item of a list; negative indexes count from the end. -/
def itemAt (items : List Value) (index : Int) : Except Failure Value :=
  let place := if index < 0 then index + items.length else index
  if place < 0 then .error .indexOutOfRange
  else match items[place.toNat]? with
    | some item => .ok item
    | none => .error .indexOutOfRange

/-- The record at an index. -/
def record (page : Page) (index : Int) : Except Failure Value :=
  page.records.bind (itemAt · index)

/-! ## The place of the page -/

/-- The number of pages that a number of entries fills. -/
def pageCount (total perPage : Int) : Except Failure Int :=
  if perPage ≤ 0 then .ok 0
  else match (Binary64.ofQuotient total perPage.toNat).ceiling? with
    | some count => .ok (max 1 count)
    | none => .error .quotientTooLarge

/-- The number of pages. -/
def totalPages (page : Page) : Except Failure Int :=
  pageCount page.totalEntries page.perPage

/-- The number of entries before the page. -/
def offset (page : Page) : Int :=
  (page.currentPage - 1) * page.perPage

/-- The page before, unless this is the first. -/
def previousPage (page : Page) : Option Int :=
  if 1 < page.currentPage then some (page.currentPage - 1) else none

/-- The page after, unless this is the last. -/
def nextPage (page : Page) : Except Failure (Option Int) :=
  page.totalPages.map fun total =>
    if page.currentPage < total then some (page.currentPage + 1) else none

/-- Whether the page lies after the last. -/
def isOutOfBounds (page : Page) : Except Failure Bool :=
  page.totalPages.map fun total => total < page.currentPage

/-! ## Questions -/

/-- What can be asked of a page. -/
inductive Question where
  | hits
  | records
  | totalEntries
  | totalPages
  | currentPage
  | previousPage
  | nextPage
  | offset
  | outOfBounds
  | empty
  | withHits
  | size
  | item (index : Int)
deriving DecidableEq, Repr

/-- A number that may be missing, as a value. -/
def optionalNumber (n : Option Int) : Value :=
  n.elim .null .int

/-- The answer of a page, as a value. -/
def answer (page : Page) : Question → Except Failure Value
  | .hits => .ok page.hits
  | .records => page.records.map .list
  | .totalEntries => .ok (.int page.totalEntries)
  | .totalPages => page.totalPages.map .int
  | .currentPage => .ok (.int page.currentPage)
  | .previousPage => .ok (optionalNumber page.previousPage)
  | .nextPage => page.nextPage.map optionalNumber
  | .offset => .ok (.int page.offset)
  | .outOfBounds => page.isOutOfBounds.map .bool
  | .empty => .ok (.bool page.isEmpty)
  | .withHits => page.withHits.map fun pairs => .list (pairs.map fun pair => .list [pair.1, pair.2])
  | .size => page.size.map fun count => .int count
  | .item index => page.record index

end Page

end SearchFilter
