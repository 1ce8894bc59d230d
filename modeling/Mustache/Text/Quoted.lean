import Mustache.Text.Printable

/-! Quoted forms: a text or a string of bytes between quotes, with everything hidden escaped. -/

namespace Mustache.Text

/-- A number in hexadecimal, filled up with zeros to at least the given width. -/
def hex (width n : Nat) : Text :=
  (Nat.toDigits 16 n).leftpad width '0'

/-- The quote to put around a text: a double one only when that saves escaping single ones. -/
def quoteFor (t : Text) : Char :=
  if t.contains '\'' && !t.contains '"' then '"' else '\''

/-- How one character is written between quotes. -/
def quotedChar (quote c : Char) : Text :=
  if c = quote || c = '\\' then ['\\', c]
  else if c = '\n' then ['\\', 'n']
  else if c = '\r' then ['\\', 'r']
  else if c = '\t' then ['\\', 't']
  else if isPrintable c then [c]
  -- A hidden character is shown by its number, in the shortest of three widths that holds it.
  else if c.toNat < 0x100 then '\\' :: 'x' :: hex 2 c.toNat
  else if c.toNat < 0x10000 then '\\' :: 'u' :: hex 4 c.toNat
  else '\\' :: 'U' :: hex 8 c.toNat

/-- A text as it appears inside a larger value: between quotes and on one line. -/
def quoted (t : Text) : Text :=
  let quote := quoteFor t
  quote :: t.flatMap (quotedChar quote) ++ [quote]

/-- How one byte is written between quotes: only the visible part of ASCII shows as it is. -/
def quotedByte (quote : Char) (byte : UInt8) : Text :=
  let c := Char.ofNat byte.toNat
  if byte < 0x80 then quotedChar quote c else '\\' :: 'x' :: hex 2 byte.toNat

/-- The quote to put around a string of bytes. -/
def quoteForBytes (data : List UInt8) : Char :=
  quoteFor (data.map fun byte => Char.ofNat byte.toNat)

/-- A string of bytes between quotes, after a mark that tells it from a text. -/
def quotedBytes (data : List UInt8) : Text :=
  let quote := quoteForBytes data
  'b' :: quote :: data.flatMap (quotedByte quote) ++ [quote]

/-- A buffer of bytes between quotes: a single quote is escaped whatever the quotes around. -/
def quotedBuffer (data : List UInt8) : Text :=
  let quote := quoteForBytes data
  'b' :: quote :: data.flatMap (quotedByte '\'') ++ [quote]

end Mustache.Text
