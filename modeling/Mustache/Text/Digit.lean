import Mustache.Text

/-! Decimal digits of every script, the numbers written with them, and numbers written in ASCII. -/

namespace Mustache.Text

/-- The zeros of the scripts that have decimal digits, each followed by the digits one to nine. -/
def zeros : List Nat :=
  [ 0x30, 0x660, 0x6f0, 0x7c0, 0x966, 0x9e6, 0xa66, 0xae6, 0xb66, 0xbe6, 0xc66, 0xce6, 0xd66, 0xde6,
    0xe50, 0xed0, 0xf20, 0x1040, 0x1090, 0x17e0, 0x1810, 0x1946, 0x19d0, 0x1a80, 0x1a90, 0x1b50,
    0x1bb0, 0x1c40, 0x1c50, 0xa620, 0xa8d0, 0xa900, 0xa9d0, 0xa9f0, 0xaa50, 0xabf0, 0xff10, 0x104a0,
    0x10d30, 0x11066, 0x110f0, 0x11136, 0x111d0, 0x112f0, 0x11450, 0x114d0, 0x11650, 0x116c0,
    0x11730, 0x118e0, 0x11950, 0x11c50, 0x11d50, 0x11da0, 0x16a60, 0x16ac0, 0x16b50, 0x1d7ce,
    0x1d7d8, 0x1d7e2, 0x1d7ec, 0x1d7f6, 0x1e140, 0x1e2f0, 0x1e950, 0x1fbf0 ]

/-- The value of a decimal digit of any script, and nothing for other characters. -/
def digit? (c : Char) : Option Nat :=
  (zeros.find? fun start => start ≤ c.toNat && c.toNat < start + 10).map (c.toNat - ·)

/-- The digits of a text that consists of decimal digits only. -/
def digits? (t : Text) : Option (List Nat) :=
  t.mapM digit?

/-- The number whose decimal digits are listed, the most significant first. -/
def numberOf (digits : List Nat) : Nat :=
  digits.foldl (fun number digit => 10 * number + digit) 0

/-- The number of digits up to which a numeral is read and written. -/
def numeralLimit : Nat := 4300

/-- Whether the numeral of an integer can be written: it has no more digits than it may have. -/
def isShort (n : Int) : Bool := (Nat.toDigits 10 n.natAbs).length ≤ numeralLimit

/-- An integer in ASCII digits, after a minus sign if it is negative. -/
def ofInt : Int → Text
  | .ofNat n => Nat.toDigits 10 n
  | .negSucc n => '-' :: Nat.toDigits 10 (n + 1)

/-- A digit is an ASCII one. -/
def isAsciiDigit (c : Char) : Bool := '0' ≤ c && c ≤ '9'

end Mustache.Text
