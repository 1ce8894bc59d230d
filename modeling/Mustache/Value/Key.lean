import Mustache.Value.Truth

/-! Values as the keys of mappings: which of them can be keys, and which are the same key. -/

namespace Mustache

namespace Binary64

/-- Two numbers are the same number: the zeros are, and what is no number is never the same. -/
def sameNumber (x y : Binary64) : Bool :=
  if x.isZero then y.isZero else x != .nan && x == y

/-- Whether a number is the given integer. -/
def isInt (x : Binary64) (n : Int) : Bool :=
  match x with
  | .finite negative mantissa exponent =>
    let signed : Int := if negative then -mantissa else mantissa
    signed * Int.pow 2 exponent.toNat == n * Int.pow 2 (-exponent).toNat
  | _ => false

end Binary64

namespace Value

mutual

/-- A value can be a key when it never changes. -/
def canBeKey : Value → Bool
  | .list _ => false
  | .set _ => false
  | .mapping _ => false
  | .buffer _ => false
  | .tuple items => canAllBeKeys items
  | .shared _ content => canBeKey content
  | _ => true

/-- Whether all of some values can be keys. -/
def canAllBeKeys : List Value → Bool
  | [] => true
  | item :: items => canBeKey item && canAllBeKeys items

end

/-- A truth value as an integer, and any other value as it is. -/
def asInteger : Value → Value
  | .bool b => .int (if b then 1 else 0)
  | value => value

/-- Two values are the same number, whatever the kind of number. -/
def sameNumber (left right : Value) : Bool :=
  match left.asInteger, right.asInteger with
  | .int m, .int n => m == n
  | .int n, .float x => x.isInt n
  | .float x, .int n => x.isInt n
  | .float x, .float y => x.sameNumber y
  | .int n, .complex re im => re.isInt n && im.isZero
  | .complex re im, .int n => re.isInt n && im.isZero
  | .float x, .complex re im => x.sameNumber re && im.isZero
  | .complex re im, .float x => x.sameNumber re && im.isZero
  | .complex re im, .complex re' im' => re.sameNumber re' && im.sameNumber im'
  | _, _ => false

/-- Two ranges are the same when they have the same integers. -/
def sameRange (start stop step start' stop' step' : Int) : Bool :=
  let length := rangeLength start stop step
  length == rangeLength start' stop' step'
    && (length == 0 || start == start') && (length ≤ 1 || step == step')

mutual

/-- Two values are the same key: plain data by what it is, everything else by its number. -/
def sameKey : Value → Value → Bool
  | .null, .null => true
  | .absent, .absent => true
  | .text t, .text t' => t == t'
  | .bytes data, .bytes data' => data == data'
  | .tuple items, .tuple items' => sameKeys items items'
  | .frozenSet items, .frozenSet items' => sameKeys items items'
  | .range start stop step, .range start' stop' step' =>
    sameRange start stop step start' stop' step'
  | .stream id _, .stream id' _ => id == id'
  | .object id _ _ _ _, .object id' _ _ _ _ => id == id'
  | .function f, .function f' => f == f'
  | left, right => sameNumber left right

/-- Two rows of values are the same keys one by one. -/
def sameKeys : List Value → List Value → Bool
  | [], [] => true
  | item :: items, item' :: items' => sameKey item item' && sameKeys items items'
  | _, _ => false

end

/-- The entry of a mapping under a key. -/
def lookup? (entries : List (Value × Value)) (key : Value) : Option Value :=
  (entries.find? (·.1.sameKey key)).map (·.2)

/-- Entries with one more: a key that is there already keeps its place and gets the new value. -/
def insert (entries : List (Value × Value)) (key value : Value) : List (Value × Value) :=
  match entries with
  | [] => [(key, value)]
  | (other, old) :: rest =>
    if other.sameKey key then (other, value) :: rest else (other, old) :: insert rest key value

end Value

end Mustache
