import Mustache.Failure
import Mustache.Value

/-! What values hold, which of them a section repeats over, and which count as false. -/

namespace Mustache.Value

/-- The public attributes of an object or a class. -/
def attributes : Value → List (Text × Value)
  | .object _ _ _ attributes _ => attributes
  | .kind _ attributes => attributes
  | _ => []

/-- What answers the names asked of a provider: its `resolve` attribute, unless that is null. -/
def resolver? (value : Value) : Option Value :=
  match find? value.attributes (.ofString "resolve") with
  | some .null => none
  | found => found

/-- The number of integers in a range. -/
def rangeLength (start stop step : Int) : Nat :=
  if 0 < step then ((stop - start + step - 1) / step).toNat
  else if step < 0 then ((start - stop - step - 1) / -step).toNat
  else 0

/-- The integers of a range. -/
def rangeItems (start stop step : Int) : List Value :=
  (List.range (rangeLength start stop step)).map fun (i : Nat) => .int (start + i * step)

/-- The integers of a string of bytes. -/
def byteItems (data : List UInt8) : List Value :=
  data.map fun byte => .int byte.toNat

/-- The number of items up to which they can be counted, one less than the 63rd power of two. -/
def countLimit : Nat := 9223372036854775807

/--
The length of a value that has one.

The items of a range are counted without listing them, unless there are too many to be counted.
-/
def size? : Value → Option Nat
  | .text t => some t.length
  | .list items => some items.length
  | .tuple items => some items.length
  | .set items => some items.length
  | .frozenSet items => some items.length
  | .mapping entries => some entries.length
  | .range start stop step =>
    let length := rangeLength start stop step
    if length ≤ countLimit then some length else none
  | .bytes data => some data.length
  | .buffer data => some data.length
  | .object _ _ _ _ items => items.map List.length
  | .shared _ content => content.size?
  | _ => none

/-- The items of a value that has a length, in their order. -/
def items? : Value → Option (List Value)
  | .text t => some (t.map fun c => .text [c])
  | .list items => some items
  | .tuple items => some items
  | .set items => some items
  | .frozenSet items => some items
  | .mapping entries => some (entries.map (·.1))
  | .range start stop step => some (rangeItems start stop step)
  | .bytes data => some (byteItems data)
  | .buffer data => some (byteItems data)
  | .object _ _ _ _ items => items
  | .shared _ content => content.items?
  | _ => none

/--
Whether a value is a collection, over which a section repeats.

Texts, immutable bytes, mappings and providers are single values, and a stream is not a collection.
-/
def isCollection (value : Value) : Bool :=
  match value with
  | .list _ => true
  | .tuple _ => true
  | .set _ => true
  | .frozenSet _ => true
  | .range _ _ _ => true
  | .buffer _ => true
  | .object _ _ _ _ (some _) => value.resolver?.isNone
  | .shared _ content => content.isCollection
  | _ => false

/-- A collection whose items are too many to be counted. -/
def isUncountable (value : Value) : Bool := value.isCollection && value.size?.isNone

/-- A value whose items, if it is a collection, can be counted. -/
def counted (value : Value) : Except Failure Value :=
  if value.isUncountable then .error .uncountable else .ok value

/-- The items of a collection. -/
def collection? (value : Value) : Option (List Value) :=
  if value.isCollection then value.items? else none

/-- False values: nothing, zero, the number that is none, the empty text and empty collections. -/
def isFalsy (value : Value) : Bool :=
  match value with
  | .null => true
  | .bool b => !b
  | .int n => n == 0
  | .float x => x.isZero || x == .nan
  | .text t => t.isEmpty
  | _ => value.isCollection && value.size? == some 0

/-- Vacant values: nothing, zero, the mark of absence, and everything with a length of zero. -/
def isVacant (value : Value) : Bool :=
  match value with
  | .null => true
  | .bool b => !b
  | .int n => n == 0
  | .float x => x.isZero
  | .complex re im => re.isZero && im.isZero
  | .absent => true
  | _ => value.size? == some 0

end Mustache.Value
