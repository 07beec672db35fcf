import ResourceWatch.Error
import ResourceWatch.Listing.Options

/-!
One page of a listing, and whether another has to be fetched after it.

The envelope that providers send a page in: an object that holds the items under a name of the
collection's own and the page's data under fixed names. The items are decoded first and taken out,
and the rest is decoded as a record of the page's data, so a fault of an item comes before any fault
of the data. A record may also be written as an array, and an envelope that is one has no items.
-/

namespace ResourceWatch.Listing

/-- The items of a page in the provider's order, with what the provider says about the page and the
collection. A page size of zero says nothing; the page number is only informative. -/
structure Page (Item : Type) where
  items : List Item
  pageNumber : UInt32
  pageSize : UInt32
  totalCount : Option UInt64
  nextMarker : Option Marker
  deriving DecidableEq, Repr

namespace Page

variable {Item : Type}

def effectiveSize (page : Page Item) (options : Options) : Option Nat :=
  if 0 < page.pageSize then some page.pageSize.toNat
  else options.explicitSize.map UInt32.toNat

/-- Whether another page has to be fetched. `seen` counts the items of the listing so far, those of
this page included. An empty page ends the listing and a marker continues it. Without either a short
page ends it; then a known total decides, by the position of the page when there is a size and by
the items seen when there is none; a full page of a collection of unknown size asks for one more. -/
def hasMore (page : Page Item) (options : Options) (seen : Nat) : Bool :=
  if page.items.isEmpty then false
  else if page.nextMarker.isSome then true
  else match page.effectiveSize options with
    | none => page.totalCount.any fun total => seen < total.toNat
    | some size =>
        if page.items.length < size then false
        else match page.totalCount with
          -- The number that was asked for decides, whatever number the page bears.
          | some total => options.pageNumber.toNat * size < total.toNat
          | none => true

theorem has_more_nonempty (page : Page Item) (options : Options) (seen : Nat)
    (more : page.hasMore options seen = true) : page.items ≠ [] := by
  intro empty
  simp [hasMore, empty] at more

end Page

end ResourceWatch.Listing

namespace ResourceWatch.Listing.Envelope

variable {Item : Type}

def record : Json.Record :=
  { name := "Envelope"
    columns :=
      [ { name := "pageNumber", scalar := .unsigned 32, optional := false,
          fallback := some (.integer 1) },
        { name := "pageSize", scalar := .unsigned 32, optional := false,
          fallback := some (.integer 0) },
        { name := "totalCount", scalar := .unsigned 64, optional := true },
        { name := "nextMarker", scalar := .text, optional := true } ] }

def decodeItems (decodeItem : Json → Except Json.Fault Item) (value : Json) :
    Except Json.Fault (List Item) :=
  match value with
  | .array items => items.mapM decodeItem
  | other => .error (.invalidType other.found "a sequence")

/-- The items under a collection's name, and the body with `null` in their place. Items that are
missing or `null` are none. -/
def takeItems (decodeItem : Json → Except Json.Fault Item) (body : Json) (key : String) :
    Except Json.Fault (List Item × Json) :=
  match body with
  | .object fields =>
      match Fields.get? fields key with
      | none => .ok ([], body)
      | some .null => .ok ([], body)
      | some value =>
          (decodeItems decodeItem value).map fun items =>
            (items, .object (fields.map fun field =>
              if field.1 == key then (key, .null) else field))
  | other => .ok ([], other)

def pageOfRow (items : List Item) : Json.Row → Page Item
  | [number, size, total, marker] =>
      { items
        pageNumber := match number with
          | some (.integer value) => UInt32.ofNat value.toNat
          | _ => 1
        pageSize := match size with
          | some (.integer value) => UInt32.ofNat value.toNat
          | _ => 0
        totalCount := match total with
          | some (.integer value) => some (UInt64.ofNat value.toNat)
          | _ => none
        nextMarker := match marker with
          | some (.text value) => some ⟨value⟩
          | _ => none }
  | _ => ⟨items, 1, 0, none, none⟩

def decode (decodeItem : Json → Except Json.Fault Item) (body : Json) (key : String) :
    Except Json.Fault (Page Item) := do
  let (items, rest) ← takeItems decodeItem body key
  let row ← record.decode rest
  return pageOfRow items row

def fetched (decodeItem : Json → Except Json.Fault Item) (body : Json) (key : String) :
    Except FetchError (Page Item) :=
  (decode decodeItem body key).mapError fun fault => .decode fault.text

section Fetched

variable {decodeItem : Json → Except Json.Fault Item} {body : Json} {key : String}

theorem fetched_of_decoded {page : Page Item} (decoded : decode decodeItem body key = .ok page) :
    fetched decodeItem body key = .ok page := by
  unfold fetched
  rw [decoded]
  rfl

theorem fetched_of_fault {fault : Json.Fault} (faulty : decode decodeItem body key = .error fault) :
    fetched decodeItem body key = .error (.decode fault.text) := by
  unfold fetched
  rw [faulty]
  rfl

end Fetched

end ResourceWatch.Listing.Envelope
