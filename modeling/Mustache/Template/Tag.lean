import Mustache.Delimiters
import Mustache.Scanner

/-! Tags as they stand in a source, and how one is read. -/

namespace Mustache

/-- What a tag is for, as its first character says. -/
inductive Sigil where
  /-- No mark: a name whose value is escaped. -/
  | plain
  /-- An ampersand: a name whose value is written as it is. -/
  | ampersand
  /-- A brace, matched by one at the end: the same. -/
  | brace
  /-- A number sign: the start of a section. -/
  | opener
  /-- A caret: the start of an inverted section. -/
  | inverter
  /-- A slash: the end of a section. -/
  | closer
  /-- A greater-than sign: a reference to another template. -/
  | inclusion
  /-- An exclamation mark: a comment. -/
  | comment
  /-- An equals sign: a change of delimiters. -/
  | switch
  deriving DecidableEq, Repr

/-- The sigil that a mark, possibly an empty one, stands for. -/
def Sigil.ofMark (mark : Text) : Sigil :=
  match mark with
  | ['&'] => .ampersand
  | ['\x7b'] => .brace
  | ['#'] => .opener
  | ['^'] => .inverter
  | ['/'] => .closer
  | ['>'] => .inclusion
  | ['!'] => .comment
  | ['='] => .switch
  | _ => .plain

/-- Whether a tag writes the value of a name. -/
def Sigil.interpolates : Sigil → Bool
  | .plain => true
  | .ampersand => true
  | .brace => true
  | _ => false

/-- A tag of a source. -/
structure Tag where
  /-- What the tag is for. -/
  sigil : Sigil
  /-- The text between the sigil and the closing delimiter, without blanks around it. -/
  body : Text
  /-- The offset of the opening delimiter. -/
  start : Nat
  /-- The offset just past the closing delimiter. -/
  stop : Nat
  deriving DecidableEq, Repr

namespace Scanner

/-- The body of a tag from just after its sigil, and the place before its closing delimiter. -/
def readBody (s : Scanner) (pair : Delimiters) (sigil : Sigil) : Text × Scanner :=
  match sigil with
  | .switch =>
    -- The body ends at an equals sign, and what follows that up to the delimiter is ignored.
    let (body, s) := s.scanUntil (.closing ['='])
    (body, ((s.scan (.closing ['='])).2.scanUntil (.closing pair.closing)).2)
  | .brace =>
    -- The body ends at the brace that stands right before the delimiter.
    let (body, s) := s.scanUntil (.closing ('\x7d' :: pair.closing))
    (body, ((s.scan (.closing ['\x7d'])).2.scanUntil (.closing pair.closing)).2)
  | _ => s.scanUntil (.closing pair.closing)

/-- The tag whose opening delimiter stands here and the place after it, unless it is not closed. -/
def readTag? (s : Scanner) (pair : Delimiters) : Option (Tag × Scanner) :=
  let (mark, inside) := (s.scan (.opening pair.opening)).2.scan .sigil
  let sigil := Sigil.ofMark mark
  let (body, before) := (inside.scan .blanks).2.readBody pair sigil
  match before.scan (.closing pair.closing) with
  | ([], _) => none
  | (_, after) => some (⟨sigil, body, s.pos, after.pos⟩, after)

/-- Moving forward leaves no more than there was. -/
theorem length_tail_advance (s : Scanner) (count : Nat) :
    (s.advance count).tail.length = s.tail.length - count := by
  -- As many characters are dropped as there are, up to that number.
  simp [advance]

/-- Reading a form leaves no more than there was. -/
theorem length_tail_scan (s : Scanner) (pattern : Pattern) :
    (s.scan pattern).2.tail.length ≤ s.tail.length := by
  -- Either nothing is read or the place moves forward.
  unfold scan
  split
  · simp [length_tail_advance]
  · exact Nat.le_refl _

/-- Reading up to a form leaves no more than there was. -/
theorem length_tail_scanUntil (s : Scanner) (pattern : Pattern) :
    (s.scanUntil pattern).2.tail.length ≤ s.tail.length := by
  -- The place moves forward or back to the end, where nothing is left.
  unfold scanUntil
  split
  · simp [seek]
  · simp [length_tail_advance]

/-- Reading a form of at least one character leaves less than there was. -/
theorem length_tail_scan_lt {s after : Scanner} {pattern : Pattern} {c : Char} {rest : Text}
    (read : s.scan pattern = (c :: rest, after)) : after.tail.length < s.tail.length := by
  -- The characters read are taken from what was left.
  unfold scan at read
  split at read
  · rename_i length found
    simp only [Prod.mk.injEq] at read
    obtain ⟨taken, rfl⟩ := read
    have nonempty : (s.tail.take length).length ≠ 0 := by rw [taken]; simp
    rw [List.length_take] at nonempty
    rw [length_tail_advance]
    omega
  · simp at read

/-- Reading the body of a tag leaves no more than there was. -/
theorem length_tail_readBody (s : Scanner) (pair : Delimiters) (sigil : Sigil) :
    (s.readBody pair sigil).2.tail.length ≤ s.tail.length := by
  -- Every step of reading a body leaves no more than there was.
  unfold readBody
  split
  · exact Nat.le_trans (length_tail_scanUntil _ _)
      (Nat.le_trans (length_tail_scan _ _) (length_tail_scanUntil _ _))
  · exact Nat.le_trans (length_tail_scanUntil _ _)
      (Nat.le_trans (length_tail_scan _ _) (length_tail_scanUntil _ _))
  · exact length_tail_scanUntil _ _

/-- Reading a tag leaves less than there was. -/
theorem length_tail_readTag {s after : Scanner} {pair : Delimiters} {tag : Tag}
    (read : s.readTag? pair = some (tag, after)) : after.tail.length < s.tail.length := by
  -- The closing delimiter has at least one character, and no step before it goes back.
  simp only [readTag?] at read
  split at read
  · simp at read
  · rename_i closing rest notEmpty closed
    simp only [Option.some.injEq, Prod.mk.injEq] at read
    obtain ⟨-, rfl⟩ := read
    -- The delimiter was found, and so it is not empty.
    obtain ⟨c, text, rfl⟩ : ∃ c text, closing = c :: text := by
      cases closing with
      | nil => simp at notEmpty
      | cons c text => exact ⟨c, text, rfl⟩
    refine Nat.lt_of_lt_of_le (length_tail_scan_lt closed) ?_
    refine Nat.le_trans (length_tail_readBody _ _ _) ?_
    exact Nat.le_trans (length_tail_scan _ _)
      (Nat.le_trans (length_tail_scan _ _) (length_tail_scan _ _))

end Scanner

end Mustache
