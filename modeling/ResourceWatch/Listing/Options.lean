import ResourceWatch.Counter
import ResourceWatch.Error
import ResourceWatch.Json.Schema
import ResourceWatch.Text

/-!
What a listing asks for: the number and size of the page and the field to order by, and the marker
that continues a sequence. Options are made by a draft that is checked when it is finished, or are
decoded as they stand.
-/

namespace ResourceWatch.Listing

structure Options where
  pageNumber : UInt32
  pageSize : Option UInt32
  orderBy : Option String
  deriving DecidableEq, Repr, Inhabited

structure Marker where
  token : String
  deriving DecidableEq, Repr

structure Request where
  options : Options
  marker : Option Marker
  deriving DecidableEq, Repr

namespace Options

def initial : Options := ⟨1, none, none⟩

/-- The size that was asked for; zero asks for none. -/
def explicitSize (options : Options) : Option UInt32 :=
  options.pageSize.filter (0 < ·)

/-- The options of the following page. The largest page number is followed by itself. -/
def nextPage (options : Options) : Options :=
  { options with pageNumber := nextCount options.pageNumber }

def query (options : Options) : List (String × String) :=
  [("pageNumber", toString options.pageNumber.toNat)] ++
    (options.pageSize.map fun size => ("pageSize", toString size.toNat)).toList ++
    (options.orderBy.map fun field => ("orderBy", field)).toList

end Options

namespace Request

def first (options : Options) : Request := ⟨options, none⟩

def pageNumber (request : Request) : UInt32 := request.options.pageNumber

def query (request : Request) : List (String × String) :=
  request.options.query ++ (request.marker.map fun marker => ("marker", marker.token)).toList

end Request

/-! Drafts. Each call sets one field again; the last call of a field counts. -/

structure Draft where
  pageNumber : UInt32 := 1
  pageSize : Option UInt32 := none
  orderBy : Option String := none
  deriving DecidableEq, Repr

inductive Draft.Call where
  | pageNumber (value : UInt32)
  | pageSize (value : UInt32)
  | maybePageSize (value : Option UInt32)
  | orderBy (value : String)
  deriving DecidableEq, Repr

namespace Draft

/-- A draft changed by one call; a blank ordering clears the field, any other loses outer blanks. -/
def apply (draft : Draft) : Call → Draft
  | .pageNumber value => { draft with pageNumber := value }
  | .pageSize value => { draft with pageSize := some value }
  | .maybePageSize value => { draft with pageSize := value }
  | .orderBy value =>
      let field := Text.trim value
      { draft with orderBy := if field.isEmpty then none else some field }

def applyAll (draft : Draft) (calls : List Call) : Draft := calls.foldl apply draft

def build (draft : Draft) : Except SettingError Options :=
  if draft.pageNumber = 0 then .error .invalidPageNumber
  else match draft.pageSize with
    | some size =>
        if maxPageSize < size.toNat then .error (.pageSizeOutOfRange size.toNat)
        else .ok ⟨draft.pageNumber, some size, draft.orderBy⟩
    | none => .ok ⟨draft.pageNumber, none, draft.orderBy⟩

end Draft

/-! The written form of options, which is not checked when it is read. -/

namespace Options

def record : Json.Record :=
  { name := "PaginationOptions"
    columns :=
      [ { name := "page_number", scalar := .unsigned 32, optional := false },
        { name := "page_size", scalar := .unsigned 32, optional := true },
        { name := "order_by", scalar := .text, optional := true } ] }

def ofRow : Json.Row → Options
  | [number, size, order] =>
      { pageNumber := match number with
          | some (.integer value) => UInt32.ofNat value.toNat
          | _ => 1
        pageSize := match size with
          | some (.integer value) => some (UInt32.ofNat value.toNat)
          | _ => none
        orderBy := match order with
          | some (.text value) => some value
          | _ => none }
  | _ => initial

def decode (value : Json) : Except Json.Fault Options :=
  (record.decode value).map ofRow

def parse (octets : List UInt8) : Except Json.Error Options :=
  ((Json.Reader.record record).run octets).map ofRow

def toJson (options : Options) : Json :=
  Json.ofFields
    [ ("page_number", Json.integer options.pageNumber.toNat),
      ("page_size", Json.ofOption (fun size => Json.integer size.toNat) options.pageSize),
      ("order_by", Json.ofOption .string options.orderBy) ]

end Options

end ResourceWatch.Listing
