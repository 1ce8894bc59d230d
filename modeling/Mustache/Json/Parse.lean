import Mustache.Json

/-! Reading JSON texts. -/

namespace Mustache.Json

/-- Why a text cannot be read. -/
inductive Unreadable where
  /-- The text is not JSON. -/
  | malformed
  /-- An integer has too many digits. -/
  | numeralTooLong
  deriving DecidableEq, Repr

/-- The four characters that may stand between the parts of a text. -/
def isSpace (c : Char) : Bool := c = ' ' || c = '\t' || c = '\n' || c = '\r'

/-- A text from its first part on. -/
def skip (t : Text) : Text := t.dropWhile isSpace

/-- The value of a hexadecimal digit. -/
def hexDigit? (c : Char) : Option Nat :=
  if '0' ≤ c ∧ c ≤ '9' then some (c.toNat - 0x30)
  else if 'a' ≤ c ∧ c ≤ 'f' then some (c.toNat - 0x57)
  else if 'A' ≤ c ∧ c ≤ 'F' then some (c.toNat - 0x37)
  else none

/-- The unit that four hexadecimal digits stand for. -/
def unit? (a b c d : Char) : Option Nat := do
  let a ← hexDigit? a
  let b ← hexDigit? b
  let c ← hexDigit? c
  let d ← hexDigit? d
  some (((a * 16 + b) * 16 + c) * 16 + d)

/-- The character that a letter after a backslash stands for. -/
def escaped? (c : Char) : Option Char :=
  match c with
  | '"' => some '"'
  | '\\' => some '\\'
  | '/' => some '/'
  | 'n' => some '\n'
  | 'r' => some '\r'
  | 't' => some '\t'
  | 'b' => some '\x08'
  | 'f' => some '\x0c'
  | _ => none

/-- The code points and escaped units up to the closing quote, and the text after it. -/
def readUnits : Text → Option (List Nat × Text)
  | [] => none
  | '"' :: rest => some ([], rest)
  | '\\' :: 'u' :: a :: b :: c :: d :: rest => do
    let unit ← unit? a b c d
    let (units, rest) ← readUnits rest
    some (unit :: units, rest)
  | '\\' :: c :: rest => do
    let c ← escaped? c
    let (units, rest) ← readUnits rest
    some (c.toNat :: units, rest)
  | c :: rest => do
    -- Control characters have to be escaped.
    let (units, rest) ← if c.toNat < 0x20 then none else readUnits rest
    some (c.toNat :: units, rest)

/-- The text of some code points, a pair of surrogates being one character. -/
def ofUnits : List Nat → Text
  | [] => []
  | [n] => [Char.ofNat n]
  | high :: low :: rest =>
    if 0xd800 ≤ high ∧ high < 0xdc00 ∧ 0xdc00 ≤ low ∧ low < 0xe000 then
      Char.ofNat (0x10000 + (high - 0xd800) * 0x400 + (low - 0xdc00)) :: ofUnits rest
    else Char.ofNat high :: ofUnits (low :: rest)

/-- The text whose opening quote has been read. -/
def readText (t : Text) : Except Unreadable (Text × Text) :=
  match readUnits t with
  | some (units, rest) => .ok (ofUnits units, rest)
  | none => .error .malformed

/-- The digits of a fraction with its point, if one follows. -/
def splitFraction (t : Text) : Text × Text :=
  match t with
  | '.' :: rest =>
    match rest.takeWhile Text.isAsciiDigit with
    | [] => ([], t)
    | digits => ('.' :: digits, rest.dropWhile Text.isAsciiDigit)
  | _ => ([], t)

/-- The exponent of a number with its mark, if one follows. -/
def splitExponent (t : Text) : Text × Text :=
  match t with
  | [] => ([], t)
  | mark :: rest =>
    if mark = 'e' || mark = 'E' then
      let sign := rest.takeWhile fun c => c = '+' || c = '-'
      let digits := (rest.drop sign.length).takeWhile Text.isAsciiDigit
      if digits = [] || 1 < sign.length then ([], t)
      else (mark :: sign ++ digits, rest.drop (sign.length + digits.length))
    else ([], t)

/-- The digits before a point: a single zero, or digits that do not begin with one. -/
def splitWhole (t : Text) : Text × Text :=
  match t with
  | '0' :: rest => (['0'], rest)
  | _ => (t.takeWhile Text.isAsciiDigit, t.dropWhile Text.isAsciiDigit)

/-- The number whose sign has been read. -/
def readNumber (negative : Bool) (t : Text) : Except Unreadable (Json × Text) :=
  let (whole, rest) := splitWhole t
  let (fraction, rest) := splitFraction rest
  let (exponent, rest) := splitExponent rest
  if whole = [] then .error .malformed
  else if fraction = [] ∧ exponent = [] then
    if Text.numeralLimit < whole.length then .error .numeralTooLong
    else
      let n : Int := Nat.ofDigitChars 10 whole 0
      .ok (.int (if negative then -n else n), rest)
  else
    match Binary64.ofMagnitude? negative (whole ++ fraction ++ exponent) with
    | some x => .ok (.float x, rest)
    | none => .error .malformed

/-- Read a value by its name. -/
def readName (name : String) (value : Json) (t : Text) : Except Unreadable (Json × Text) :=
  if (Text.ofString name).isPrefixOf t then .ok (value, t.drop name.length) else .error .malformed

/-- Entries with one more: a name that is there already keeps its place and gets the new value. -/
def insert (entries : List (Text × Json)) (name : Text) (value : Json) : List (Text × Json) :=
  match entries with
  | [] => [(name, value)]
  | (other, old) :: rest =>
    if other = name then (name, value) :: rest else (other, old) :: insert rest name value

mutual

/-- Read a value that stands right here, in at most so many nested steps. -/
def readValue : Nat → Text → Except Unreadable (Json × Text)
  | 0, _ => .error .malformed
  | steps + 1, t =>
    match t with
    | [] => .error .malformed
    | c :: rest =>
      if c = '"' then do
        let (content, rest) ← readText rest
        .ok (.text content, rest)
      else if c = '[' then
        match skip rest with
        | ']' :: rest => .ok (.array [], rest)
        | rest => do
          let (items, rest) ← readItems steps rest
          .ok (.array items, rest)
      else if c = '\x7b' then
        match skip rest with
        | '\x7d' :: rest => .ok (.object [], rest)
        | rest => do
          let (entries, rest) ← readEntries steps [] rest
          .ok (.object entries, rest)
      else if c = 'n' then readName "null" .null t
      else if c = 't' then readName "true" (.bool true) t
      else if c = 'f' then readName "false" (.bool false) t
      else if c = 'N' then readName "NaN" (.float .nan) t
      else if c = 'I' then readName "Infinity" (.float (.infinite false)) t
      else if c = '-' then
        match rest with
        | 'I' :: _ => readName "Infinity" (.float (.infinite true)) rest
        | _ => readNumber true rest
      else readNumber false t

/-- Read the items of an array up to its closing bracket. -/
def readItems : Nat → Text → Except Unreadable (List Json × Text)
  | 0, _ => .error .malformed
  | steps + 1, t => do
    let (item, rest) ← readValue steps t
    match skip rest with
    | ']' :: rest => .ok ([item], rest)
    | ',' :: rest =>
      let (items, rest) ← readItems steps (skip rest)
      .ok (item :: items, rest)
    | _ => .error .malformed

/-- Read the entries of an object up to its closing brace. -/
def readEntries : Nat → List (Text × Json) → Text → Except Unreadable (List (Text × Json) × Text)
  | 0, _, _ => .error .malformed
  | steps + 1, before, t =>
    match t with
    | '"' :: rest => do
      let (name, rest) ← readText rest
      match skip rest with
      | ':' :: rest =>
        let (value, rest) ← readValue steps (skip rest)
        let entries := insert before name value
        match skip rest with
        | '\x7d' :: rest => .ok (entries, rest)
        | ',' :: rest => readEntries steps entries (skip rest)
        | _ => .error .malformed
      | _ => .error .malformed
    | _ => .error .malformed

end

/-- Read a text that holds one value and nothing else. -/
def ofText (t : Text) : Except Unreadable Json := do
  -- Every nested step reads a character, so there are no more steps than characters.
  let (value, rest) ← readValue (t.length + 1) (skip t)
  if skip rest = [] then .ok value else .error .malformed

end Mustache.Json
