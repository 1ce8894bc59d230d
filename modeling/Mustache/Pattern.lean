import Mustache.Text

/-! The forms of text a scanner looks for, and where in a text they occur. -/

namespace Mustache

/-- A form of text that a scanner looks for. -/
inductive Pattern where
  /-- Any number of blanks, none included. -/
  | blanks
  /-- At least one blank. -/
  | gap
  /-- One of the characters that say what a tag is for. -/
  | sigil
  /-- A literal text and any number of blanks after it. -/
  | opening (literal : Text)
  /-- Any number of blanks and a literal text after them. -/
  | closing (literal : Text)
  deriving DecidableEq, Repr

namespace Pattern

/-- The characters that say what a tag is for. -/
def sigils : List Char := ['#', '^', '/', '>', '\x7b', '&', '=', '!']

/--
The length of the longest front of a text that consists of blanks and a literal.

The literal may begin with blanks of its own, so as many blanks are passed over as leave it intact.
-/
def paddedLength? (literal : Text) : Text → Option Nat
  | [] => if literal = [] then some 0 else none
  | c :: rest =>
    ((if Text.isBlank c then paddedLength? literal rest else none).map (· + 1)).or
      (if literal.isPrefixOf (c :: rest) then some literal.length else none)

/-- The length of the longest front of a text that has the form, if one has it. -/
def length? (pattern : Pattern) (t : Text) : Option Nat :=
  match pattern with
  | .blanks => some (t.takeWhile Text.isBlank).length
  | .gap =>
    match (t.takeWhile Text.isBlank).length with
    | 0 => none
    | length => some length
  | .sigil =>
    match t with
    | c :: _ => if c ∈ sigils then some 1 else none
    | [] => none
  | .opening literal =>
    if literal.isPrefixOf t then
      some (literal.length + ((t.drop literal.length).takeWhile Text.isBlank).length)
    else none
  | .closing literal => paddedLength? literal t

/-- Whether some front of a text has the form. -/
def matchesAt (pattern : Pattern) (t : Text) : Bool := (pattern.length? t).isSome

/-- A form that is not at this character is not behind it either: it takes blanks in front. -/
def reachesPast (pattern : Pattern) (c : Char) : Bool :=
  match pattern with
  | .closing _ => Text.isBlank c
  | _ => false

/-- The distance to the first place of a form that may be known not to be right here. -/
def distanceFrom (pattern : Pattern) (excluded : Bool) : Text → Nat
  | [] => 0
  | c :: rest =>
    if !excluded && pattern.matchesAt (c :: rest) then 0
    else pattern.distanceFrom (pattern.reachesPast c) rest + 1

/-- The number of characters before the first place where the form occurs, or before the end. -/
def distance (pattern : Pattern) (t : Text) : Nat := pattern.distanceFrom false t

/-- Where a form that takes blanks in front is not at a blank, it is not behind the blank. -/
theorem matchesAt_of_reachesPast {pattern : Pattern} {c : Char} {rest : Text}
    (blank : pattern.reachesPast c = true) (behind : pattern.matchesAt rest = true) :
    pattern.matchesAt (c :: rest) = true := by
  -- The blank makes the form longer by one character.
  obtain ⟨literal, rfl⟩ : ∃ literal, pattern = .closing literal := by
    revert blank
    unfold reachesPast
    split
    · exact fun _ => ⟨_, rfl⟩
    · exact fun never => absurd never Bool.false_ne_true
  -- A literal behind the blank stands behind one blank more.
  have padded : (paddedLength? literal rest).isSome = true := behind
  have isBlank : Text.isBlank c = true := blank
  show (paddedLength? literal (c :: rest)).isSome = true
  rw [paddedLength?, if_pos isBlank, Option.isSome_or, Option.isSome_map, padded, Bool.true_or]

/-- To know that a form is not right here does not change the distance to it. -/
theorem distanceFrom_eq {pattern : Pattern} {excluded : Bool} {t : Text}
    (absent : excluded = true → pattern.matchesAt t = false) :
    pattern.distanceFrom excluded t = pattern.distance t := by
  -- What is known to be absent is not found by looking either.
  cases t with
  | nil => rfl
  | cons c rest =>
    cases excluded with
    | false => rfl
    | true => simp [distance, distanceFrom, absent rfl]

/-- The distance is zero where the form is, and one more than from the next character elsewhere. -/
theorem distance_cons (pattern : Pattern) (c : Char) (rest : Text) :
    pattern.distance (c :: rest)
      = if pattern.matchesAt (c :: rest) then 0 else pattern.distance rest + 1 := by
  -- What is handed on about the next character is true of it.
  rw [distance, distanceFrom]
  cases here : pattern.matchesAt (c :: rest) with
  | true => simp
  | false =>
    rw [distanceFrom_eq]
    · simp
    -- A form right behind a blank is at the blank already.
    · intro blank
      cases behind : pattern.matchesAt rest with
      | false => rfl
      | true => rw [matchesAt_of_reachesPast blank behind] at here; exact here

/-- The first place lies inside the text or at its end. -/
theorem distance_le (pattern : Pattern) (t : Text) : pattern.distance t ≤ t.length := by
  -- Each character passed over is one of the text.
  induction t with
  | nil => exact Nat.le_refl 0
  | cons c rest ih =>
    rw [distance_cons]
    split
    · exact Nat.zero_le _
    · simpa using ih

end Pattern

end Mustache
