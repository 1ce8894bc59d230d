import Mustache.Failure
import Mustache.Value

/-! The written forms of values: on their own, and as a part of a larger value. -/

namespace Mustache.Value

/-- Written forms with a comma and a space between them. -/
def commas (shown : List Text) : Text := [',', ' '].intercalate shown

/-- Some written forms between two brackets. -/
def enclosed (opening : Text) (shown : List Text) (closing : Text) : Text :=
  opening ++ commas shown ++ closing

/-- A tuple, whose only item is followed by a comma. -/
def tupleText : List Text → Text
  | [shown] => '(' :: shown ++ [',', ')']
  | shown => enclosed ['('] shown [')']

mutual

/-- The written form of a value as a part of a larger one, whatever the length of its numerals. -/
def literal : Value → Text
  | .null => .ofString "None"
  | .bool b => if b then .ofString "True" else .ofString "False"
  | .int n => Text.ofInt n
  | .float x => x.toText
  | .complex re im => Binary64.complexText re im
  | .text t => Text.quoted t
  | .list items => enclosed ['['] (literals items) [']']
  | .tuple items => tupleText (literals items)
  | .set [] => .ofString "set()"
  | .set (item :: items) => enclosed ['\x7b'] (literal item :: literals items) ['\x7d']
  | .frozenSet [] => .ofString "frozenset()"
  | .frozenSet (item :: items) =>
    enclosed (.ofString "frozenset(" ++ ['\x7b']) (literal item :: literals items) ['\x7d', ')']
  | .mapping entries => enclosed ['\x7b'] (entryLiterals entries) ['\x7d']
  | .range start stop step =>
    -- A step of one goes without saying.
    let bounds := [Text.ofInt start, Text.ofInt stop]
    enclosed (.ofString "range(") (if step = 1 then bounds else bounds ++ [Text.ofInt step]) [')']
  | .bytes data => Text.quotedBytes data
  | .buffer data => .ofString "bytearray(" ++ Text.quotedBuffer data ++ [')']
  | .stream _ _ => .ofString "<gen>"
  | .object _ _ display _ _ => display
  | .kind name _ => .ofString "<class 'm." ++ name ++ ['\'', '>']
  | .function .html => .ofString "<function escape_html>"
  | .function (.hosted _ _ label _) => label
  | .shared _ content => literal content
  | .absent => .ofString "MISSING"

/-- The written forms of the items of a collection. -/
def literals : List Value → List Text
  | [] => []
  | item :: items => literal item :: literals items

/-- The written forms of the entries of a mapping. -/
def entryLiterals : List (Value × Value) → List Text
  | [] => []
  | (key, value) :: entries =>
    (literal key ++ ':' :: ' ' :: literal value) :: entryLiterals entries

end

/-- The written form of a value on its own: a text stands for itself. -/
def display : Value → Text
  | .text t => t
  | value => value.literal

mutual

/-- Whether a value can be shown: no numeral in its written form is too long. -/
def canBeShown : Value → Bool
  | .int n => Text.isShort n
  | .list items => canAllBeShown items
  | .tuple items => canAllBeShown items
  | .set items => canAllBeShown items
  | .frozenSet items => canAllBeShown items
  | .mapping entries => canEntriesBeShown entries
  | .range start stop step => [start, stop, step].all Text.isShort
  | .shared _ content => canBeShown content
  | _ => true

/-- Whether all of some values can be shown. -/
def canAllBeShown : List Value → Bool
  | [] => true
  | item :: items => canBeShown item && canAllBeShown items

/-- Whether all entries of a mapping can be shown, with their keys. -/
def canEntriesBeShown : List (Value × Value) → Bool
  | [] => true
  | (key, value) :: entries => canBeShown key && canBeShown value && canEntriesBeShown entries

end

/-- A value as it is displayed, which fails if a numeral in it is too long. -/
def shown (value : Value) : Except Failure Text :=
  if value.canBeShown then .ok value.display else .error .numeralTooLong

end Mustache.Value
