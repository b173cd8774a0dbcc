import DocumentCard.Pdf.Object
import DocumentCard.Pdf.Fault
set_option autoImplicit false

/-!
# Predicted rows

Before data are compressed, each row may be replaced by its differences to what stands to the left
and above.  A row starts with the number of its prediction; undoing it adds to each byte a value
made of the byte one pixel to the left, the one above, and the one to the left of that.
-/

namespace DocumentCard.Pdf.Predictor

/-- How a row was predicted. -/
inductive Kind where
  | none
  | left
  | above
  | average
  | nearest
  deriving DecidableEq, Repr

/-- The prediction of a number. -/
def Kind.ofByte? (b : UInt8) : Option Kind :=
  match b.toNat with
  | 0 => some .none
  | 1 => some .left
  | 2 => some .above
  | 3 => some .average
  | 4 => some .nearest
  | _ => Option.none

/-- Of three bytes the one nearest to `left + above - corner`, the earlier one if two are as near. -/
def nearestOf (left above corner : UInt8) : UInt8 :=
  let p : Int := (left.toNat : Int) + above.toNat - corner.toNat
  let distance (b : UInt8) : Nat := (p - b.toNat).natAbs
  if distance left ≤ distance above ∧ distance left ≤ distance corner then left
  else if distance above ≤ distance corner then above
  else corner

/-- What is added to a byte. -/
def Kind.value (k : Kind) (left above corner : UInt8) : UInt8 :=
  match k with
  | .none => 0
  | .left => left
  | .above => above
  | .average => left + above / 2
  | .nearest => nearestOf left above corner

/-- Undoes the prediction of a row; `pixel` is the size of a pixel and `done` what has been undone,
last first. -/
def undo (k : Kind) (pixel : Nat) (done : Bytes) : Bytes → Bytes → Bytes → Bytes
  | b :: row, a :: above, c :: corner =>
      undo k pixel ((b + k.value (done.getD (pixel - 1) 0) a c) :: done) row above corner
  | _, _, _ => done.reverse

/-- Undoes the prediction of all rows; `out` holds the finished rows, last first. -/
def rows (pixel width : Nat) (above : Bytes) (out : List Bytes) :
    Nat → Bytes → Except Fault Bytes
  | 0, _ => .ok out.reverse.flatten
  | _ + 1, [] => .ok out.reverse.flatten
  | fuel + 1, b :: rest =>
      match Kind.ofByte? b with
      | none => .error (.unknownPredictor b.toNat)
      | some k =>
          let raw := rest.take width
          if raw.length < width then .error .cutShort
          else
            let row := undo k pixel [] raw above (List.replicate pixel 0 ++ above)
            rows pixel width row (row :: out) fuel (rest.drop width)

/-- A positive setting. -/
def setting (params : Dict) (key : String) (least : Nat) : Nat :=
  max least ((params.int? key).getD least).toNat

/-- No memory holds more bytes than these. -/
def memoryLimit : Nat := 0x7FFFFFFFFFFFFFFF

/-- Undoes the prediction that the parameters tell of. -/
def undoAll (params : Option Dict) (data : Bytes) : Except Fault Bytes :=
  match params with
  | none => .ok data
  | some params =>
      let kind := (params.int? "Predictor").getD 1
      if 10 ≤ kind ∧ kind ≤ 15 then
        let pixel := setting params "Colors" 1 * setting params "BitsPerComponent" 8 / 8
        let width := setting params "Columns" 1 * pixel
        if memoryLimit < width then .error .rowTooLong
        else
          let above := List.replicate (min width data.length) 0
          rows pixel width above [] data.length data
      else .ok data

end DocumentCard.Pdf.Predictor
