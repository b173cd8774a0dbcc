import DocumentCard.Pdf.Filter.Inflate
import DocumentCard.Pdf.Filter.Lzw
import DocumentCard.Pdf.Filter.Predictor
set_option autoImplicit false

/-!
# The data of a stream

A stream's data may have passed through filters, named in its dictionary.  Two filters are known;
images are left alone.
-/

namespace DocumentCard.Pdf.Filter

/-- The names of a stream's filters, in the order in which they are undone. -/
def names (d : Dict) : Except Fault (List String) :=
  match d.get? "Filter" with
  | none => .error .keyMissing
  | some (.name n) => .ok [n]
  | some (.arr items) =>
      items.mapM fun o => match o.name? with
        | some n => .ok n
        | none => .error .wrongType
  | some _ => .error .wrongType

/-- Undoes one filter. -/
def undo (params : Option Dict) (data : Bytes) (name : String) : Except Fault Bytes :=
  if name = "FlateDecode" then Predictor.undoAll params (Inflate.inflate data)
  else if name = "LZWDecode" then
    let early := (params.bind (·.int? "EarlyChange")).getD 1 ≠ 0
    Predictor.undoAll params (Lzw.decode early data)
  else .error .wrongType

/-- The data of a stream with all filters undone; there must be one. -/
def decode (d : Dict) (data : Bytes) : Except Fault Bytes := do
  let params := (d.get? "DecodeParms").bind Obj.dict?
  let filters ← names d
  if d.name? "Subtype" = some "Image" then throw .wrongType
  if filters.isEmpty then throw .wrongType
  filters.foldlM (undo params) data

/-- Whether undoing a stream's filters comes upon a row that no memory holds. -/
def breaksDown (d : Dict) (data : Bytes) : Bool := decode d data matches .error .rowTooLong

/-- A stream with its filters undone, or as it is if they cannot be undone. -/
def opened (d : Dict) (data : Bytes) : Except Fault (Dict × Bytes) :=
  match decode d data with
  | .ok plain =>
      .ok (((d.erase "DecodeParms").erase "Filter").set "Length" (.int plain.length), plain)
  | .error .rowTooLong => .error .rowTooLong
  | .error _ => .ok (d, data)

end DocumentCard.Pdf.Filter
