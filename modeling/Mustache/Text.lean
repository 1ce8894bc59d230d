/-! Texts as sequences of code points: blanks, words, pieces between separators, and slices. -/

namespace Mustache

/-- A text is its sequence of code points, the unit every offset, length and column counts. -/
abbrev Text := List Char

namespace Text

/-- The text of a literal, which stays as it is written until it is unfolded. -/
@[irreducible]
def ofString (s : String) : Text := s.toList

/--
A blank separates words, pads tags and may be dropped with a line of its own.

The blanks are the white space of Unicode and the four information separators of ASCII.
-/
def isBlank (c : Char) : Bool :=
  let n := c.toNat
  (9 ≤ n && n ≤ 13) || (28 ≤ n && n ≤ 32) || n == 0x85 || n == 0xa0 || n == 0x1680
    || (0x2000 ≤ n && n ≤ 0x200a) || n == 0x2028 || n == 0x2029 || n == 0x202f
    || n == 0x205f || n == 0x3000

/-- The text without the blanks at its two ends. -/
def strip (t : Text) : Text :=
  ((t.dropWhile isBlank).reverse.dropWhile isBlank).reverse

/--
The first word of a text and, if there is one, the second.

A text of blanks only has one word, the empty one.
-/
def firstWords (t : Text) : List Text :=
  let body := strip t
  let word := body.takeWhile (!isBlank ·)
  match body.dropWhile (!isBlank ·) with
  | [] => [word]
  | rest => [word, (rest.dropWhile isBlank).takeWhile (!isBlank ·)]

/-- The piece of a text before the first separator, and the pieces after each separator. -/
def pieces (separator : Char) : Text → Text × List Text
  | [] => ([], [])
  | c :: rest =>
    let later := pieces separator rest
    if c = separator then ([], later.1 :: later.2) else (c :: later.1, later.2)

/-- The lines of a text without their line breaks, of which there is at least one. -/
def lines (t : Text) : List Text := (pieces '\n' t).1 :: (pieces '\n' t).2

/-- Pieces written one after the other, with a separator before each but the first. -/
def join (separator : Char) (first : Text) (others : List Text) : Text :=
  first ++ others.flatMap (separator :: ·)

/-- Joining the pieces of a text at their separator gives the text back. -/
theorem join_pieces (separator : Char) (t : Text) :
    join separator (pieces separator t).1 (pieces separator t).2 = t := by
  -- A separator starts a new piece, and any other character extends the first one.
  induction t with
  | nil => rfl
  | cons c rest ih =>
    by_cases same : c = separator
    · subst same
      simpa [pieces, join] using ih
    · simpa [pieces, join, same] using ih

/-- No piece of a text has the separator in it. -/
theorem notMem_pieces (separator : Char) (t : Text) :
    separator ∉ (pieces separator t).1 ∧ ∀ piece ∈ (pieces separator t).2, separator ∉ piece := by
  -- A separator ends a piece instead of becoming a part of it.
  induction t with
  | nil => simp [pieces]
  | cons c rest ih =>
    by_cases same : c = separator
    · simpa [pieces, same] using ih
    · have different : separator ≠ c := fun equal => same equal.symm
      simpa [pieces, same, different] using ih

/-- What has no separator and stands in front belongs to the first piece. -/
theorem pieces_append {separator : Char} {first : Text} (whole : separator ∉ first) (t : Text) :
    pieces separator (first ++ t)
      = (first ++ (pieces separator t).1, (pieces separator t).2) := by
  -- The text in front is gone through; none of its characters ends a piece.
  induction first with
  | nil => rfl
  | cons c rest ih =>
    have different : c ≠ separator := (List.ne_of_not_mem_cons whole).symm
    rw [List.cons_append, pieces, ih (List.not_mem_of_not_mem_cons whole), if_neg different]
    rfl

/-- Pieces without a separator that are joined are the pieces of what they are joined to. -/
theorem pieces_join {separator : Char} {first : Text} {others : List Text}
    (whole : separator ∉ first) (wholes : ∀ piece ∈ others, separator ∉ piece) :
    pieces separator (join separator first others) = (first, others) := by
  -- The induction is on the pieces behind the first one.
  rw [join, pieces_append whole]
  induction others generalizing first with
  | nil => simp [pieces]
  | cons next others ih =>
    -- The separator ends the first piece, and behind it stand the others joined.
    have none : separator ∉ ([] : Text) := List.not_mem_nil
    have later := ih none fun piece member => wholes piece (List.mem_cons_of_mem _ member)
    rw [List.flatMap_cons, List.cons_append, pieces, if_pos rfl,
      pieces_append (wholes next List.mem_cons_self)]
    rw [List.nil_append] at later
    have first' := congrArg Prod.fst later
    have others' := congrArg Prod.snd later
    dsimp only at first' others'
    rw [first', others', List.append_nil, List.append_nil]

/-- A bound of a slice: counted from the end when negative, and never outside the text. -/
def bound (length : Nat) (n : Int) : Nat :=
  if n < 0 then (n + length).toNat else min n.toNat length

/-- The characters from one offset up to another, empty when the second does not come later. -/
def slice (t : Text) (start stop : Int) : Text :=
  (t.take (bound t.length stop)).drop (bound t.length start)

/-- Slicing at offsets inside the text cuts it there. -/
theorem slice_ofNat (t : Text) {start stop : Nat} (ordered : start ≤ stop)
    (inside : stop ≤ t.length) : slice t start stop = (t.take stop).drop start := by
  -- Neither bound is negative or past the end, so both stay as they are.
  have startKept : bound t.length start = start := by
    rw [bound, if_neg (by omega)]; omega
  have stopKept : bound t.length stop = stop := by
    rw [bound, if_neg (by omega)]; omega
  rw [slice, startKept, stopKept]

end Text

end Mustache
