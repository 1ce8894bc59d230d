import Mathlib.Tactic.SplitIfs
import Mustache.Json.Parse

/-! Written texts and integers are read back, whatever follows them. -/

namespace Mustache.Json

/-- A hexadecimal digit has the value that it was written for. -/
theorem hexDigit?_digitChar {d : Nat} (small : d < 16) : hexDigit? d.digitChar = some d := by
  -- There are sixteen digits.
  revert d
  decide

/-- A number below `2 ^ 16` is written in four hexadecimal digits. -/
theorem leftpad_toDigits {n : Nat} (small : n < 0x10000) :
    (Nat.toDigits 16 n).leftpad 4 '0'
      = [(n / 0x1000).digitChar, (n / 0x100 % 16).digitChar, (n / 0x10 % 16).digitChar,
          (n % 16).digitChar] := by
  have shorter : ∀ {m : Nat}, ¬ m < 16 →
      Nat.toDigits 16 m = Nat.toDigits 16 (m / 16) ++ [(m % 16).digitChar] :=
    fun large => Nat.toDigits_of_base_le (by decide) (Nat.le_of_not_lt large)
  -- The digits that are not written because the number is small are zeros.
  by_cases one : n < 16
  · have high : n / 0x1000 = 0 ∧ n / 0x100 % 16 = 0 ∧ n / 0x10 % 16 = 0 ∧ n % 16 = n := by omega
    rw [Nat.toDigits_of_lt_base one, high.1, high.2.1, high.2.2.1, high.2.2.2]
    rfl
  by_cases two : n / 16 < 16
  · have high : n / 0x1000 = 0 ∧ n / 0x100 % 16 = 0 ∧ n / 0x10 % 16 = n / 16 := by omega
    rw [shorter one, Nat.toDigits_of_lt_base two, high.1, high.2.1, high.2.2]
    rfl
  by_cases three : n / 16 / 16 < 16
  · have high : n / 0x1000 = 0 ∧ n / 0x100 % 16 = n / 16 / 16 ∧ n / 0x10 % 16 = n / 16 % 16 := by
      omega
    rw [shorter one, shorter two, Nat.toDigits_of_lt_base three, high.1, high.2.1, high.2.2]
    rfl
  · -- All four digits were written already.
    have four : n / 16 / 16 / 16 < 16 := by omega
    have high : n / 0x1000 = n / 16 / 16 / 16 ∧ n / 0x100 % 16 = n / 16 / 16 % 16 := by omega
    rw [shorter one, shorter two, shorter three, Nat.toDigits_of_lt_base four, high.1, high.2]
    rfl

/-- An escaped unit is read as this unit. -/
theorem readUnits_escapedUnit {n : Nat} (small : n < 0x10000) (rest : Text) :
    readUnits (escapedUnit n ++ rest)
      = (readUnits rest).map fun found => (n :: found.1, found.2) := by
  -- The four digits stand for the number they were taken from.
  have value : ((n / 0x1000 * 16 + n / 0x100 % 16) * 16 + n / 0x10 % 16) * 16 + n % 16 = n := by
    omega
  have units : unit? (n / 0x1000).digitChar (n / 0x100 % 16).digitChar (n / 0x10 % 16).digitChar
      (n % 16).digitChar = some n := by
    -- Each of the four digits has its value.
    rw [unit?, hexDigit?_digitChar (by omega), hexDigit?_digitChar (by omega),
      hexDigit?_digitChar (by omega), hexDigit?_digitChar (by omega)]
    exact congrArg some value
  rw [escapedUnit, leftpad_toDigits small]
  simp only [List.cons_append, List.nil_append, readUnits, units, Option.bind_eq_bind,
    Option.bind_some]
  cases readUnits rest <;> rfl

/-- The units that a character is read as: one, or a pair of surrogates beyond sixteen bits. -/
def unitsOf (c : Char) : List Nat :=
  if c.toNat < 0x10000 then [c.toNat]
  else [0xd800 + (c.toNat - 0x10000) / 0x400, 0xdc00 + (c.toNat - 0x10000) % 0x400]

/-- A letter behind a backslash is read as the character that it stands for. -/
theorem readUnits_letter {letter c : Char} (known : escaped? letter = some c)
    (plain : letter ≠ 'u') (rest : Text) :
    readUnits ('\\' :: letter :: rest)
      = (readUnits rest).map fun found => (c.toNat :: found.1, found.2) := by
  -- The letter does not announce digits.
  rw [readUnits]
  · rw [known]
    cases readUnits rest <;> rfl
  · exact fun _ _ _ _ _ same _ => plain same

/-- A character that is neither a quote nor a backslash, nor a control character, is read as it is. -/
theorem readUnits_plain {c : Char} (noQuote : c ≠ '"') (noBackslash : c ≠ '\\')
    (shows : 0x20 ≤ c.toNat) (rest : Text) :
    readUnits (c :: rest) = (readUnits rest).map fun found => (c.toNat :: found.1, found.2) := by
  -- Each other kind of character comes before in the reader.
  rw [readUnits]
  · rw [if_neg (by omega)]
    cases readUnits rest <;> rfl
  · exact noQuote
  · rintro a b c' d rest' rfl
    contradiction
  · rintro c' rest' rfl
    contradiction

/-- A written character is read as its units. -/
theorem readUnits_writtenChar (c : Char) (rest : Text) :
    readUnits (writtenChar c ++ rest)
      = (readUnits rest).map fun found => (unitsOf c ++ found.1, found.2) := by
  -- A letter behind a backslash stands for a character of one unit.
  have letter : ∀ {mark c : Char}, escaped? mark = some c → mark ≠ 'u' → c.toNat < 0x10000 →
      readUnits ('\\' :: mark :: rest)
        = (readUnits rest).map fun found => (unitsOf c ++ found.1, found.2) := by
    intro mark c known plain small
    rw [readUnits_letter known plain, unitsOf, if_pos small]
    rfl
  unfold writtenChar
  split_ifs with quote backslash newline return' tab back feed printable small
  · subst quote
    exact letter rfl (by decide) (by decide)
  · subst backslash
    exact letter rfl (by decide) (by decide)
  · subst newline
    exact letter rfl (by decide) (by decide)
  · subst return'
    exact letter rfl (by decide) (by decide)
  · subst tab
    exact letter rfl (by decide) (by decide)
  · subst back
    exact letter rfl (by decide) (by decide)
  · subst feed
    exact letter rfl (by decide) (by decide)
  · -- A printable character stands for itself.
    simp only [Bool.and_eq_true, decide_eq_true_eq] at printable
    rw [unitsOf, if_pos (by omega)]
    exact readUnits_plain quote backslash printable.1 rest
  · -- A character of one unit is written with its number.
    rw [readUnits_escapedUnit small, unitsOf, if_pos small]
    rfl
  · -- Both surrogates are units of their own.
    have valid := c.valid
    have bound : c.toNat < 0x110000 := by
      rcases valid with low | high
      · exact Nat.lt_of_lt_of_le low (by decide)
      · exact high.2
    rw [List.append_assoc, readUnits_escapedUnit (by omega), readUnits_escapedUnit (by omega),
      unitsOf, if_neg small]
    cases readUnits rest <;> rfl

/-- A written text is read as the units of its characters, up to the closing quote. -/
theorem readUnits_written (t rest : Text) :
    readUnits (t.flatMap writtenChar ++ '"' :: rest) = some (t.flatMap unitsOf, rest) := by
  -- The characters are read in turn until the quote is met.
  induction t with
  | nil => rfl
  | cons c t ih =>
    rw [List.flatMap_cons, List.append_assoc, readUnits_writtenChar, ih]
    rfl

/-- The units of a character in front of others stand for this character. -/
theorem ofUnits_unitsOf (c : Char) (units : List Nat) :
    ofUnits (unitsOf c ++ units) = c :: ofUnits units := by
  have valid : c.toNat < 0xd800 ∨ 0xdfff < c.toNat ∧ c.toNat < 0x110000 := c.valid
  unfold unitsOf
  split_ifs with small
  · -- A single unit is no surrogate, so it is not joined with the next one.
    cases units with
    | nil => simp [ofUnits, Char.ofNat_toNat]
    | cons low rest =>
      have single : ¬ (0xd800 ≤ c.toNat ∧ c.toNat < 0xdc00 ∧ 0xdc00 ≤ low ∧ low < 0xe000) := by
        omega
      rw [List.singleton_append, ofUnits, if_neg single, Char.ofNat_toNat]
  · -- The two surrogates hold the upper and the lower ten bits.
    have pair : 0x10000 + (0xd800 + (c.toNat - 0x10000) / 0x400 - 0xd800) * 0x400
        + (0xdc00 + (c.toNat - 0x10000) % 0x400 - 0xdc00) = c.toNat := by omega
    rw [List.cons_append, List.singleton_append, ofUnits, if_pos (by omega), pair,
      Char.ofNat_toNat]

/-- The units of a text stand for this text. -/
theorem ofUnits_flatMap (t : Text) : ofUnits (t.flatMap unitsOf) = t := by
  -- The units of one character are complete before those of the next begin.
  induction t with
  | nil => rfl
  | cons c t ih => rw [List.flatMap_cons, ofUnits_unitsOf, ih]

/-- A written text is read back, behind its opening quote. -/
theorem readText_written (t rest : Text) :
    readText (t.flatMap writtenChar ++ '"' :: rest) = .ok (t, rest) := by
  -- Its units are read back, and they stand for its characters.
  simp only [readText, readUnits_written, ofUnits_flatMap]

/-- A character that may stand right behind a value. -/
def endsValue (c : Char) : Bool := c = ',' || c = ']' || c = '\x7d' || c = '\n'

/-- What may stand behind a value: nothing, or a text that goes on with another value or ends it. -/
def Follows (rest : Text) : Prop := ∀ c ∈ rest.head?, endsValue c = true

/-- A digit is one of ASCII. -/
theorem isAsciiDigit_of_mem_toDigits {n : Nat} {c : Char} (member : c ∈ Nat.toDigits 10 n) :
    Text.isAsciiDigit c = true := by
  -- The two tests for a digit ask for the same bounds.
  have digit := Nat.isDigit_of_mem_toDigits (by decide) (by decide) member
  simpa [Char.isDigit, Text.isAsciiDigit, Char.le_def] using digit

/-- What stands behind a value begins with no digit, and goes on with no fraction or exponent. -/
theorem Follows.head {c : Char} {rest : Text} (follows : Follows (c :: rest)) :
    Text.isAsciiDigit c = false ∧ c ≠ '.' ∧ c ≠ 'e' ∧ c ≠ 'E' := by
  have ends := follows c rfl
  simp only [endsValue, Bool.or_eq_true, decide_eq_true_eq] at ends
  -- There are four such characters.
  rcases ends with ((rfl | rfl) | rfl) | rfl <;> decide

/-- The first digit of a positive number is not zero. -/
theorem head_toDigits_ne_zero {n : Nat} (positive : 0 < n) :
    ∀ c ∈ (Nat.toDigits 10 n).head?, c ≠ '0' := by
  -- The induction is on the size of the number, which loses its last digit.
  induction n using Nat.strongRecOn with
  | ind n ih =>
    intro c first
    by_cases small : n < 10
    · rw [Nat.toDigits_of_lt_base small] at first
      obtain rfl : n.digitChar = c := by simpa using first
      simpa using Nat.pos_iff_ne_zero.mp positive
    · -- The digits but the last one are those of a smaller number.
      rw [Nat.toDigits_of_base_le (by decide) (by omega), List.head?_append] at first
      refine ih (n / 10) (by omega) (by omega) c ?_
      obtain ⟨d, rest, same⟩ := List.exists_cons_of_ne_nil (Nat.toDigits_ne_nil (n := n / 10) (b := 10))
      rw [same] at first ⊢
      exact first

/-- The digits of a number are taken from what follows it. -/
theorem splitWhole_toDigits (n : Nat) {rest : Text} (follows : Follows rest) :
    splitWhole (Nat.toDigits 10 n ++ rest) = (Nat.toDigits 10 n, rest) := by
  have digits : ∀ c ∈ Nat.toDigits 10 n, Text.isAsciiDigit c = true :=
    fun c member => isAsciiDigit_of_mem_toDigits member
  by_cases zero : n = 0
  · subst zero
    rw [Nat.toDigits_zero]
    rfl
  -- No more digits are taken from what follows.
  · have first := head_toDigits_ne_zero (Nat.pos_of_ne_zero zero)
    have stop : rest.takeWhile Text.isAsciiDigit = [] ∧ rest.dropWhile Text.isAsciiDigit = rest := by
      cases rest with
      | nil => exact ⟨rfl, rfl⟩
      | cons c rest => simp [follows.head.1]
    -- All digits are taken, since the first one is no zero.
    rw [splitWhole]
    · rw [List.takeWhile_append_of_pos digits, List.dropWhile_append_of_pos digits, stop.1, stop.2,
        List.append_nil]
    · intro rest' same
      obtain ⟨d, more, shown⟩ := List.exists_cons_of_ne_nil (Nat.toDigits_ne_nil (n := n) (b := 10))
      rw [shown] at first same
      exact first d rfl (List.cons.inj same).1

/-- A written number is read back, behind its sign. -/
theorem readNumber_toDigits (negative : Bool) {n : Nat}
    (short : (Nat.toDigits 10 n).length ≤ Text.numeralLimit) {rest : Text} (follows : Follows rest) :
    readNumber negative (Nat.toDigits 10 n ++ rest)
      = .ok (.int (if negative then -n else n), rest) := by
  have fraction : splitFraction rest = ([], rest) := by
    rw [splitFraction]
    rintro more rfl
    exact follows.head.2.1 rfl
  have exponent : splitExponent rest = ([], rest) := by
    cases rest with
    | nil => rfl
    | cons c rest => simp [splitExponent, follows.head.2.2]
  -- Neither a fraction nor an exponent follows.
  rw [readNumber, splitWhole_toDigits n follows]
  -- What was read are the digits of the number, of which there are few enough.
  simp only [fraction, exponent, Nat.toDigits_ne_nil, and_self, if_true, if_false,
    Nat.not_lt.mpr short, Nat.ofDigitChars_ten_toDigits]

end Mustache.Json
