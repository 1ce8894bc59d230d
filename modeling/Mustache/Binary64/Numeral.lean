import Mustache.Binary64.Shortest
import Mustache.Text.Digit

/-! Floating-point numbers in writing: reading any decimal, and writing the shortest one. -/

namespace Mustache.Binary64

/-- How a decimal is laid out. -/
structure Layout where
  /-- The least power of ten of a leading digit that is written in place. -/
  lowest : Int
  /-- The first power of ten of a leading digit that is too large to be written in place. -/
  highest : Int
  /-- Whether a whole number written in place shows a fraction of zero. -/
  keepsFraction : Bool

/-- On its own a number is written in place from `0.0001` to `10 ^ 16`, always with a fraction. -/
def Layout.plain : Layout := ⟨-4, 16, true⟩

/-- A part of a complex number leaves a fraction of zero out. -/
def Layout.part : Layout := { Layout.plain with keepsFraction := false }

/-- An exponent after its mark: its sign and at least two digits. -/
def exponentMark (n : Int) : Text :=
  let sign := if n < 0 then '-' else '+'
  'e' :: sign :: (Nat.toDigits 10 n.natAbs).leftpad 2 '0'

/-- The digits of a positive decimal, the first of which counts the given power of ten. -/
def Layout.decimal (layout : Layout) (digits : Text) (leading : Int) : Text :=
  if leading < layout.lowest || layout.highest ≤ leading then
    let fraction := digits.drop 1
    let mantissa := digits.take 1 ++ if fraction = [] then [] else '.' :: fraction
    mantissa ++ exponentMark leading
  else if leading < 0 then
    '0' :: '.' :: List.replicate (-leading - 1).toNat '0' ++ digits
  else
    let whole := (digits.take (leading + 1).toNat).rightpad (leading + 1).toNat '0'
    match digits.drop (leading + 1).toNat with
    | [] => if layout.keepsFraction then whole ++ ['.', '0'] else whole
    | fraction => whole ++ '.' :: fraction

/-- The magnitude of a number. -/
def Layout.magnitude (layout : Layout) (mantissa : Nat) (exponent : Int) : Text :=
  if mantissa = 0 then layout.decimal ['0'] 0
  else
    let shortest := shortestDecimal mantissa exponent
    let digits := Nat.toDigits 10 shortest.1
    layout.decimal digits (digits.length + shortest.2 - 1)

/-- A number with its sign. -/
def Layout.write (layout : Layout) : Binary64 → Text
  | .nan => ['n', 'a', 'n']
  | .infinite negative => if negative then ['-', 'i', 'n', 'f'] else ['i', 'n', 'f']
  | .finite negative mantissa exponent =>
    let magnitude := layout.magnitude mantissa exponent
    if negative then '-' :: magnitude else magnitude

/-- A number in its shortest form. -/
def toText (x : Binary64) : Text := Layout.plain.write x

/--
A complex number: its parts between brackets, or its imaginary part alone.

The imaginary part stands alone when the real part is the zero without a sign.
-/
def complexText (re im : Binary64) : Text :=
  let imaginary := Layout.part.write im ++ ['j']
  match re with
  | .finite false 0 _ => imaginary
  | _ =>
    let joint := if imaginary.head? = some '-' then [] else ['+']
    '(' :: Layout.part.write re ++ joint ++ imaginary ++ [')']

/-- An optional sign at the front of a numeral: whether it is a minus, and the rest. -/
def splitSign : Text → Bool × Text
  | '-' :: rest => (true, rest)
  | '+' :: rest => (false, rest)
  | rest => (false, rest)

/-- The integer of an exponent part, which is zero when there is none. -/
def exponentOf? : Text → Option Int
  | [] => some 0
  | mark :: rest =>
    let (negative, digits) := splitSign rest
    if (mark = 'e' || mark = 'E') && digits ≠ [] && digits.all Text.isAsciiDigit then
      let n := Nat.ofDigitChars 10 digits 0
      some (if negative then -n else n)
    else none

/-- The number a decimal stands for: digits around an optional point, and an optional exponent. -/
def ofMagnitude? (negative : Bool) (t : Text) : Option Binary64 :=
  let whole := t.takeWhile Text.isAsciiDigit
  let rest := t.dropWhile Text.isAsciiDigit
  let (fraction, rest) := match rest with
    | '.' :: more => (more.takeWhile Text.isAsciiDigit, more.dropWhile Text.isAsciiDigit)
    | more => ([], more)
  match whole ++ fraction with
  | [] => none
  | digits => do
    let exponent ← exponentOf? rest
    some (ofDecimal negative (Nat.ofDigitChars 10 digits 0) (exponent - fraction.length))

/-- The number a numeral stands for, the names of infinity and of no number included. -/
def ofText? (t : Text) : Option Binary64 :=
  let (negative, rest) := splitSign t
  if rest = ['n', 'a', 'n'] then some .nan
  else if rest = ['i', 'n', 'f'] then some (.infinite negative)
  else ofMagnitude? negative rest

end Mustache.Binary64
