import Mustache.Text.Digit

/-! Places in a source text, as a line and a column that both count from one. -/

namespace Mustache

/-- A place in a source text. -/
structure Location where
  /-- The number of the line, the first being one. -/
  line : Int
  /-- The number of the character in its line, the first being one. -/
  column : Int
  /-- The number of characters before the place. -/
  offset : Int
  deriving DecidableEq, Repr

namespace Location

/-- A place as its line and its column. -/
def toText (place : Location) : Text :=
  Text.ofInt place.line ++ ':' :: Text.ofInt place.column

/-- The characters of a text after its last line break. -/
def lastLine (t : Text) : Text :=
  (t.reverse.takeWhile (· != '\n')).reverse

/-- The place at an offset, which is moved to the nearer end when it is outside the source. -/
def ofOffset (source : Text) (offset : Int) : Location :=
  let inside := min offset.toNat source.length
  let before := source.take inside
  { line := before.count '\n' + 1
    column := (lastLine before).length + 1
    offset := inside }

end Location

end Mustache
