import Mustache.Binary64.Numeral
import Mustache.Text.Quoted

/-! The values a view is made of. -/

namespace Mustache

/-- How many arguments a function takes. -/
inductive Arity where
  /-- Exactly the given number. -/
  | exactly (count : Nat)
  /-- Any number. -/
  | any
  deriving DecidableEq, Repr

/-- A function among the values. -/
inductive Function where
  /-- The escape of this library, a function of one argument. -/
  | html
  /-- A function of the host, known by its number. -/
  | hosted (id : Nat) (className label : Text) (arity : Arity)
  deriving DecidableEq, Repr

/-- Whether a function takes a number of arguments. -/
def Function.accepts (f : Function) (count : Nat) : Bool :=
  match f with
  | .html => count == 1
  | .hosted _ _ _ (.exactly expected) => count == expected
  | .hosted _ _ _ .any => true

/--
A value of a view, of a configuration or of a collection of partial templates.

Functions and objects are what the host supplies; everything else is plain data.
-/
inductive Value where
  /-- A value that is present and says nothing. -/
  | null
  /-- A truth value. -/
  | bool (b : Bool)
  /-- An integer of any size. -/
  | int (n : Int)
  /-- A floating-point number. -/
  | float (x : Binary64)
  /-- A complex number. -/
  | complex (re im : Binary64)
  /-- A text. -/
  | text (t : Text)
  /-- A list. -/
  | list (items : List Value)
  /-- A tuple. -/
  | tuple (items : List Value)
  /-- A set, in its order of iteration. -/
  | set (items : List Value)
  /-- A set that cannot change. -/
  | frozenSet (items : List Value)
  /-- Entries by key, in their order; a key is a name when it is a text. -/
  | mapping (entries : List (Value × Value))
  /-- The integers from a start in equal steps up to a stop, which is left out. -/
  | range (start stop step : Int)
  /-- A string of bytes that cannot change. -/
  | bytes (data : List UInt8)
  /-- A string of bytes that can change. -/
  | buffer (data : List UInt8)
  /-- Items that are handed out once; how many are gone is kept under the number. -/
  | stream (id : Nat) (items : List Value)
  /--
  An object of the host, known by its number.

  It is shown in some way, has public attributes, and may have items.
  -/
  | object (id : Nat) (className display : Text) (attributes : List (Text × Value))
      (items : Option (List Value))
  /-- A class of the host and its public attributes. -/
  | kind (name : Text) (attributes : List (Text × Value))
  /-- A function. -/
  | function (f : Function)
  /--
  A list or a mapping that several places share, known by its number.

  What is written into it is kept under the number.
  -/
  | shared (id : Nat) (content : Value)
  /-- The mark for a name that has no value. -/
  | absent
  deriving Inhabited, Repr

namespace Value

/-- The attribute of a name. -/
def find? (attributes : List (Text × Value)) (name : Text) : Option Value :=
  (attributes.find? (·.1 == name)).map (·.2)

/-- A key that is the given name. -/
def isNamed (name : Text) : Value → Bool
  | .text t => t == name
  | _ => false

/-- The entry of a mapping under a name. -/
def named? (entries : List (Value × Value)) (name : Text) : Option Value :=
  (entries.find? (·.1.isNamed name)).map (·.2)

/-- The name of the type of a value. -/
def typeName : Value → Text
  | .null => .ofString "NoneType"
  | .bool _ => .ofString "bool"
  | .int _ => .ofString "int"
  | .float _ => .ofString "float"
  | .complex _ _ => .ofString "complex"
  | .text _ => .ofString "str"
  | .list _ => .ofString "list"
  | .tuple _ => .ofString "tuple"
  | .set _ => .ofString "set"
  | .frozenSet _ => .ofString "frozenset"
  | .mapping _ => .ofString "dict"
  | .range _ _ _ => .ofString "range"
  | .bytes _ => .ofString "bytes"
  | .buffer _ => .ofString "bytearray"
  | .stream _ _ => .ofString "Gen"
  | .object _ className _ _ _ => className
  | .kind _ _ => .ofString "type"
  | .function .html => .ofString "function"
  | .function (.hosted _ className _ _) => className
  | .shared _ content => content.typeName
  | .absent => .ofString "_Missing"

end Value

end Mustache
