import Mustache.Failure
import Mustache.Value.Truth

/-! What plain data answers to a single name. -/

namespace Mustache.Value

/-- The number of items of a sequence that integers index. -/
def indexable? : Value → Option Nat
  | .list items => some items.length
  | .tuple items => some items.length
  | .range start stop step => some (rangeLength start stop step)
  | .bytes data => some data.length
  | .buffer data => some data.length
  | _ => none

/-- The item of a sequence at a place that exists. -/
def itemAt (value : Value) (place : Nat) : Value :=
  match value with
  | .list items => items.getD place .absent
  | .tuple items => items.getD place .absent
  | .range start _ step => .int (start + place * step)
  | .bytes data => (byteItems data).getD place .absent
  | .buffer data => (byteItems data).getD place .absent
  | _ => .absent

/-- A name that is an index: whether it counts from the end, and its digits. -/
def indexOf? (name : Text) : Option (Bool × List Nat) :=
  let (negative, digits) := match name with
    | '-' :: digits => (true, digits)
    | digits => (false, digits)
  match Text.digits? digits with
  | some (first :: others) => some (negative, first :: others)
  | _ => none

/-- The item at an index, which counts from the end when it is negative. -/
def atIndex (value : Value) (length : Nat) (negative : Bool) (index : Nat) : Value :=
  if negative && index ≠ 0 then
    if index ≤ length then value.itemAt (length - index) else .absent
  else if index < length then value.itemAt index
  else .absent

/-- The public attribute of a name. -/
def publicAttribute (value : Value) (name : Text) : Value :=
  -- The names of no character and those that begin with a low line are not public.
  if name = [] || name.head? = some '_' then .absent
  else
    let among := fun (fields : List (String × Value)) =>
      (find? (fields.map fun field => (.ofString field.1, field.2)) name).getD .absent
    match value with
    | .int n =>
      among [("real", .int n), ("imag", .int 0), ("numerator", .int n), ("denominator", .int 1)]
    | .bool b =>
      let n : Value := .int (if b then 1 else 0)
      among [("real", n), ("imag", .int 0), ("numerator", n), ("denominator", .int 1)]
    | .float x => among [("real", .float x), ("imag", .float .zero)]
    | .complex re im => among [("real", .float re), ("imag", .float im)]
    | .range start stop step =>
      among [("start", .int start), ("stop", .int stop), ("step", .int step)]
    | _ => (find? value.attributes name).getD .absent

/--
What a value that is no provider answers to a name.

A mapping looks up its entries, a sequence takes an index, and everything else has attributes.
-/
def member (value : Value) (name : Text) : Except Failure Value :=
  match value with
  | .mapping entries => .ok ((named? entries name).getD .absent)
  | _ =>
    match value.indexable?, indexOf? name with
    | some length, some (negative, digits) =>
      if Text.numeralLimit < digits.length then .error .numeralTooLong
      -- An index is compared with the number of items.
      else if value.isUncountable then .error .uncountable
      else .ok (value.atIndex length negative (Text.numberOf digits))
    | _, _ => .ok (value.publicAttribute name)

end Mustache.Value
