import Mathlib.Data.List.Forall2
import SearchFilter.Page
import SearchFilter.Proofs.Json.Records

/-!
# Records and hits

A record is made of a hit by putting the fields of its document behind the identifier of the hit.
Where the document has a field of that name, the field takes the place of the identifier.

* `recordOf_value` is what comes of one hit: `Hit` holds what is known of a hit that is a map whose
  document, if it has one, is a map.
* `Page.Shows` says that all views of a page show one list of records.
* `records_ofHits` is the result: a page shows one record for each hit, all fields of the document
  but the identifier are kept as they are, and the identifier is that of the hit exactly when the
  document has no other.
-/

namespace SearchFilter

/-! ## Putting fields behind a first one -/

namespace Value

/-- No two entries have equal keys. -/
def DistinctKeys (entries : List (Value × Value)) : Prop :=
  entries.Pairwise fun earlier later => (earlier.1 == later.1) = false

/-- A new key is put at the end. -/
theorem put_of_forall_ne {key : Value} {entries : List (Value × Value)}
    (h : ∀ entry ∈ entries, (entry.1 == key) = false) (value : Value) :
    Entries.put key value entries = entries ++ [(key, value)] := by
  induction entries with
  | nil => rfl
  | cons entry rest ih =>
    obtain ⟨hentry, hrest⟩ := List.forall_mem_cons.mp h
    rw [Entries.put, hentry, ih hrest]
    rfl

/-- Keys that are the same text are equal. -/
theorem beq_of_text?_eq {key other : Value} {name : String} (hkey : key.text? = some name)
    (hother : other.text? = some name) : (key == other) = true := by
  have hsame := hkey.trans hother.symm
  cases key with
  | text s | fieldType kind =>
    cases other with
    | text t | fieldType other => exact beq_iff_eq (α := String).mpr (Option.some.inj hsame)
    | _ => cases hother
  | _ => cases hkey

/-- A text is no key among keys that differ from one that is this text. -/
theorem field?_eq_none_of_ne {key : Value} {name : String} (hkey : key.text? = some name)
    {entries : List (Value × Value)} (h : ∀ entry ∈ entries, (key == entry.1) = false) :
    field? name entries = none := by
  rw [field?, List.lookup_eq_none_iff]
  intro entry hentry
  rw [bne, text_beq, Bool.not_eq_true']
  by_contra hsame
  have hequal := beq_of_text?_eq hkey (eq_of_beq (by simpa using hsame))
  rw [h entry hentry] at hequal
  cases hequal

/-- Entries put after one with a text as key: that text keeps its place and takes the value that it
has among them. -/
theorem putAll_cons (name : String) (value : Value) {built entries : List (Value × Value)}
    (hdistinct : DistinctKeys (built ++ entries)) :
    Entries.putAll ((text name, value) :: built) entries =
      (text name, (field? name entries).getD value) ::
        (built ++ Entries.erase (text name) entries) := by
  induction entries generalizing value built with
  | nil => simp [Entries.putAll, Entries.erase, field?]
  | cons entry rest ih =>
    obtain ⟨key, new⟩ := entry
    obtain ⟨hbuilt, hentries, hcross⟩ := List.pairwise_append.mp hdistinct
    obtain ⟨hlater, hrest⟩ := List.pairwise_cons.mp hentries
    rw [Entries.putAll, List.foldl_cons, Entries.put, text_beq, field?, List.lookup_cons, text_beq,
      Entries.erase, List.filter_cons, beq_text]
    cases hsame : key.text? == some name with
    | true =>
      have hdistinct' : DistinctKeys (built ++ rest) :=
        List.pairwise_append.mpr
          ⟨hbuilt, hrest, fun earlier he later hl => hcross earlier he later (.tail _ hl)⟩
      -- The text does not come again, so it keeps this value.
      have hput := ih new hdistinct'
      rw [field?_eq_none_of_ne (eq_of_beq hsame) hlater] at hput
      exact hput
    | false =>
      rw [put_of_forall_ne fun earlier he => hcross earlier he _ List.mem_cons_self]
      have hdistinct' : DistinctKeys ((built ++ [(key, new)]) ++ rest) := by simpa using hdistinct
      have hput := ih value hdistinct'
      rw [List.append_assoc] at hput
      exact hput

end Value

namespace Page

/-! ## Hits -/

/-- A hit that is a map; its document is a map too, if it has one. -/
structure Hit where
  entries : List (Value × Value)
  /-- The fields of the document, none if there is no document. -/
  source : List (Value × Value)
  source_eq : (Value.field? "_source" entries).getD (.map []) = .map source
  distinct : Value.DistinctKeys source

namespace Hit

/-- The hit as it stands on a page. -/
def value (hit : Hit) : Value :=
  .map hit.entries

/-- The identifier of a hit, null if it has none. -/
def id (hit : Hit) : Value :=
  (Value.field? "_id" hit.entries).getD .null

/-- The identifier that the document has, and that of the hit if it has none. -/
def shownId (hit : Hit) : Value :=
  (Value.field? "_id" hit.source).getD hit.id

end Hit

/-- The record of a hit is its identifier, followed by the other fields of the document. -/
theorem recordOf_value (hit : Hit) :
    recordOf hit.value = .ok (.map
      ((.text "_id", hit.shownId) :: Entries.erase (.text "_id") hit.source)) := by
  have hid : hit.value.getOr "_id" .null = .ok hit.id := rfl
  have hsource : hit.value.getOr "_source" (.map []) = .ok (.map hit.source) := by
    rw [← hit.source_eq]
    rfl
  rw [recordOf, hid, hsource]
  have hput : Entries.putAll [(.text "_id", hit.id)] hit.source = _ :=
    @Value.putAll_cons "_id" hit.id [] hit.source hit.distinct
  show Except.ok (Value.map (Entries.putAll [(.text "_id", hit.id)] hit.source)) = _
  rw [hput]
  rfl

/-! ## Items by index -/

theorem itemAt_of_lt {items : List Value} {place : Nat} (h : place < items.length) :
    itemAt items place = .ok items[place] := by
  have hnonneg : ¬ (place : Int) < 0 := by omega
  rw [itemAt]
  simp [hnonneg, List.getElem?_eq_getElem h]

/-- An index below zero counts from the end. -/
theorem itemAt_from_end {items : List Value} {place : Nat} (h : place < items.length) :
    itemAt items (place - items.length) = .ok items[place] := by
  have hnegative : (place : Int) - items.length < 0 := by omega
  rw [itemAt]
  simp [hnegative, List.getElem?_eq_getElem h]

theorem itemAt_outside {items : List Value} {index : Int}
    (h : index < -items.length ∨ items.length ≤ index) :
    itemAt items index = .error .indexOutOfRange := by
  rw [itemAt]
  split_ifs with hnegative hplace
  · rfl
  · omega
  · rw [List.getElem?_eq_none (by omega)]

/-! ## Views of a page -/

/-- All views of a page show the same records, one for each hit. -/
structure Shows (page : Page) (hits records : List Value) : Prop where
  length_eq : records.length = hits.length
  records_eq : page.records = .ok records
  size_eq : page.size = .ok records.length
  isEmpty_iff : page.isEmpty = true ↔ records = []
  withHits_eq : page.withHits = .ok (records.zip hits)
  record_eq : ∀ place (h : place < records.length), page.record place = .ok records[place]
  record_from_end : ∀ place (h : place < records.length),
    page.record (place - records.length) = .ok records[place]
  record_outside : ∀ index : Int, index < -records.length ∨ records.length ≤ index →
    page.record index = .error .indexOutOfRange

theorem shows_of_mapM_recordOf {page : Page} {hits records : List Value}
    (hhits : page.hits = .list hits) (hrecords : hits.mapM recordOf = .ok records) :
    page.Shows hits records := by
  have hlist : page.hitList = .ok hits := by
    rw [hitList, hhits]
    rfl
  have hlength : records.length = hits.length := (mapM_eq_ok hrecords).length_eq.symm
  have hall : page.records = .ok records := by
    rw [Page.records, hlist]
    exact hrecords
  have hitem : ∀ index, page.record index = itemAt records index := by
    intro index
    rw [record, hall]
    rfl
  exact {
    length_eq := hlength
    records_eq := hall
    size_eq := by
      rw [size, hlist, hlength]
      rfl
    isEmpty_iff := by
      rw [isEmpty, hhits, ← List.length_eq_zero_iff, hlength]
      simp [Value.isFilled]
    withHits_eq := by
      rw [withHits, hall, hlist]
      rfl
    record_eq := fun place h => (hitem place).trans (itemAt_of_lt h)
    record_from_end := fun place h => (hitem _).trans (itemAt_from_end h)
    record_outside := fun index h => (hitem index).trans (itemAt_outside h) }

/-! ## Records of hits -/

/-- A record has the given identifier, and besides it the fields of the document as they are. -/
def IsRecord (id : Value) (source : List (Value × Value)) (record : Value) : Prop :=
  ∃ entries, record = .map entries ∧ Value.field? "_id" entries = some id ∧
    Entries.erase (.text "_id") entries = Entries.erase (.text "_id") source

/-- The record that is made of a hit. -/
def Hit.record (hit : Hit) : Value :=
  .map ((.text "_id", hit.shownId) :: Entries.erase (.text "_id") hit.source)

theorem isRecord_record_iff (hit : Hit) (id : Value) :
    IsRecord id hit.source hit.record ↔ hit.shownId = id := by
  constructor
  · rintro ⟨entries, hentries, hid, -⟩
    cases hentries
    exact Option.some.inj hid
  · rintro rfl
    refine ⟨_, rfl, rfl, ?_⟩
    simp [Entries.erase, Value.beq_text, Value.text?]

/-- The identifier of a hit is shown if its document has no other. -/
theorem shownId_eq_id_iff (hit : Hit) :
    hit.shownId = hit.id ↔ ∀ id, Value.field? "_id" hit.source = some id → id = hit.id := by
  rw [Hit.shownId]
  cases Value.field? "_id" hit.source <;> simp

/-- A page of hits shows one record for each, with the fields of the document as they are.  Its
identifier is the one that the document has, and otherwise that of the hit; so all records have the
identifiers of their hits exactly when no document has another one. -/
theorem records_ofHits {page : Page} {hits : List Hit}
    (hhits : page.hits = .list (hits.map Hit.value)) :
    ∃ records, page.Shows (hits.map Hit.value) records ∧
      List.Forall₂ (fun hit => IsRecord hit.shownId hit.source) hits records ∧
      (List.Forall₂ (fun hit => IsRecord hit.id hit.source) hits records ↔
        ∀ hit ∈ hits, ∀ id, Value.field? "_id" hit.source = some id → id = hit.id) := by
  have hmapM : (hits.map Hit.value).mapM recordOf = .ok (hits.map Hit.record) :=
    mapM_of_forall₂ (List.forall₂_map_left_iff.mpr (List.forall₂_map_right_iff.mpr
      (List.forall₂_same.mpr fun hit _ => recordOf_value hit)))
  refine ⟨hits.map Hit.record, shows_of_mapM_recordOf hhits hmapM, ?_, ?_⟩
  · exact List.forall₂_map_right_iff.mpr
      (List.forall₂_same.mpr fun hit _ => (isRecord_record_iff hit _).mpr rfl)
  · rw [List.forall₂_map_right_iff, List.forall₂_same]
    refine forall₂_congr fun hit _ => ?_
    rw [isRecord_record_iff, shownId_eq_id_iff]

/-- A hit with an identifier, one without identifier and document, and one whose document repeats
its identifier. -/
def plainHits : List Hit :=
  [⟨[(.text "_id", .text "1"), (.text "_source", .map [(.text "title", .text "First")])],
      [(.text "title", .text "First")], rfl, .cons (fun _ h => absurd h List.not_mem_nil) .nil⟩,
    ⟨[(.text "sort", .list [])], [], rfl, .nil⟩,
    ⟨[(.text "_id", .text "3"), (.text "_source", .map [(.text "_id", .text "3")])],
      [(.text "_id", .text "3")], rfl, .cons (fun _ h => absurd h List.not_mem_nil) .nil⟩]

def plainPage : Page :=
  ⟨.list (plainHits.map Hit.value), 3, 10, 1, .null⟩

theorem records_ofHits_plainHits :
    plainPage.hits = .list (plainHits.map Hit.value) ∧
      ∃ records, plainPage.Shows (plainHits.map Hit.value) records ∧
        List.Forall₂ (fun hit => IsRecord hit.id hit.source) plainHits records := by
  obtain ⟨records, hshows, -, hiff⟩ := @records_ofHits plainPage plainHits rfl
  refine ⟨rfl, records, hshows, hiff.mpr ?_⟩
  intro hit hhit id hid
  simp only [plainHits, List.mem_cons, List.not_mem_nil, or_false] at hhit
  rcases hhit with rfl | rfl | rfl
  · cases hid
  · cases hid
  · exact (Option.some.inj hid).symm

/-- A hit whose document has an identifier of its own. -/
def renamedHit : Hit :=
  ⟨[(.text "_id", .text "1"), (.text "_source", .map [(.text "_id", .text "2")])],
    [(.text "_id", .text "2")], rfl, .cons (fun _ h => absurd h List.not_mem_nil) .nil⟩

/-- The record does not have the identifier of the hit. -/
theorem not_isRecord_renamedHit :
    ∃ records, (⟨.list [renamedHit.value], 1, 1, 1, .null⟩ : Page).records = .ok records ∧
      records = [.map [(.text "_id", .text "2")]] ∧
      ¬ List.Forall₂ (fun hit => IsRecord hit.id hit.source) [renamedHit] records := by
  refine ⟨_, rfl, rfl, ?_⟩
  rintro (_ | ⟨hrecord, _⟩)
  obtain ⟨entries, hentries, hid, -⟩ := hrecord
  cases hentries
  exact absurd (Value.text.inj (Option.some.inj hid)) (by decide)

end Page

end SearchFilter
