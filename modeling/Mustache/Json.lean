import Mustache.Binary64.Numeral
import Mustache.Text.Order

/-! JSON values, and their texts in one line or indented. -/

namespace Mustache

/-- A JSON value, with integers of any size apart from floating-point numbers. -/
inductive Json where
  /-- The value that says nothing. -/
  | null
  /-- A truth value. -/
  | bool (b : Bool)
  /-- A number without a fraction or an exponent. -/
  | int (n : Int)
  /-- A number with a fraction or an exponent, or the name of a number that has no digits. -/
  | float (x : Binary64)
  /-- A text. -/
  | text (t : Text)
  /-- An array. -/
  | array (items : List Json)
  /-- An object, with its entries in order. -/
  | object (entries : List (Text × Json))
  deriving Inhabited, Repr

namespace Json

/-- One unit of an escaped character: a number below `2 ^ 16` in four hexadecimal digits. -/
def escapedUnit (n : Nat) : Text :=
  '\\' :: 'u' :: (Nat.toDigits 16 n).leftpad 4 '0'

/-- How a character is written inside a JSON text, which stays within printable ASCII. -/
def writtenChar (c : Char) : Text :=
  if c = '"' then ['\\', '"']
  else if c = '\\' then ['\\', '\\']
  else if c = '\n' then ['\\', 'n']
  else if c = '\r' then ['\\', 'r']
  else if c = '\t' then ['\\', 't']
  else if c = '\x08' then ['\\', 'b']
  else if c = '\x0c' then ['\\', 'f']
  else if 0x20 ≤ c.toNat && c.toNat < 0x7f then [c]
  else if c.toNat < 0x10000 then escapedUnit c.toNat
  -- A character beyond sixteen bits is written as a pair of surrogates.
  else
    let beyond := c.toNat - 0x10000
    escapedUnit (0xd800 + beyond / 0x400) ++ escapedUnit (0xdc00 + beyond % 0x400)

/-- A text between double quotes. -/
def writtenText (t : Text) : Text := '"' :: t.flatMap writtenChar ++ ['"']

/-- A floating-point number, with the names JSON readers know for those without digits. -/
def writtenFloat : Binary64 → Text
  | .nan => .ofString "NaN"
  | .infinite false => .ofString "Infinity"
  | .infinite true => .ofString "-Infinity"
  | x => x.toText

/-- The indentation of so many spaces, of which there are none when the number is negative. -/
def spaces (width : Int) : Text := List.replicate width.toNat ' '

/-- The line break and the indentation before an element at a depth, if elements get own lines. -/
def lineBreak (indent : Option Text) (depth : Nat) : Text :=
  match indent with
  | none => []
  | some unit => '\n' :: (List.replicate depth unit).flatten

/-- What stands between two elements at some depth. -/
def separator (indent : Option Text) (depth : Nat) : Text :=
  match indent with
  | none => [',', ' ']
  | some _ => ',' :: lineBreak indent depth

/-- Written elements between brackets, which stay together when there is nothing between them. -/
def bracketed (indent : Option Text) (depth : Nat) (opening closing : Char)
    (shown : List Text) : Text :=
  match shown with
  | [] => [opening, closing]
  | _ =>
    opening :: lineBreak indent (depth + 1) ++ (separator indent (depth + 1)).intercalate shown
      ++ lineBreak indent depth ++ [closing]

mutual

/-- The text of a value at some depth, with the entries of objects sorted by name. -/
def write (indent : Option Text) (depth : Nat) : Json → Text
  | .null => .ofString "null"
  | .bool b => if b then .ofString "true" else .ofString "false"
  | .int n => Text.ofInt n
  | .float x => writtenFloat x
  | .text t => writtenText t
  | .array items => bracketed indent depth '[' ']' (writeItems indent (depth + 1) items)
  | .object entries =>
    let written := Text.sortBy (·.1) (writeEntries indent (depth + 1) entries)
    bracketed indent depth '\x7b' '\x7d'
      (written.map fun entry => writtenText entry.1 ++ ':' :: ' ' :: entry.2)

/-- The texts of the items of an array. -/
def writeItems (indent : Option Text) (depth : Nat) : List Json → List Text
  | [] => []
  | item :: items => write indent depth item :: writeItems indent depth items

/-- The names of the entries of an object and the texts of their values. -/
def writeEntries (indent : Option Text) (depth : Nat) : List (Text × Json) → List (Text × Text)
  | [] => []
  | (name, value) :: entries =>
    (name, write indent depth value) :: writeEntries indent depth entries

end

/-- The text of a value, in one line or with elements on lines of their own that are indented. -/
def toText (indent : Option Text) (value : Json) : Text := write indent 0 value

/-- The value of a name, if an object has it. -/
def find? (entries : List (Text × Json)) (name : Text) : Option Json :=
  (entries.find? (·.1 == name)).map (·.2)

end Json

end Mustache
