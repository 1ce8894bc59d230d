import Mustache.Template.Line

/-! Lines by number: on which line a piece stands, and which lines lose their characters. -/

namespace Mustache.Piece

/-- The number of line breaks before a place in a row of pieces, which is that of its line. -/
def lineOf (pieces : List Piece) (i : Nat) : Nat := (pieces.take i).countP endsLine

/-- A place on a line that has a tag, and nothing on it but blanks and tags that write no value. -/
def Stripped (pieces : List Piece) (i : Nat) : Prop :=
  (∃ (j : Nat) (t : Tag), pieces[j]? = some (.tag t) ∧ lineOf pieces j = lineOf pieces i)
    ∧ ∀ (j : Nat) (piece : Piece), pieces[j]? = some piece → lineOf pieces j = lineOf pieces i →
        piece.isSilent = true

/-- The character of a piece that is one, with its offset. -/
def character? : Piece → Option (Char × Int)
  | .char c offset => some (c, offset)
  | .tag _ => none

/-- The first line of a row of pieces, and the pieces behind it. -/
structure FirstLine (line later : List Piece) : Prop where
  /-- The line has at least one piece. -/
  nonempty : line ≠ []
  /-- No piece but the last one ends the line. -/
  whole : ∀ i < line.length, lineOf (line ++ later) i = 0
  /-- The last piece ends the line, unless nothing comes behind it. -/
  ended : later ≠ [] → line.countP endsLine = 1

/-- A piece that ends a line is the first line if it comes first. -/
theorem FirstLine.single {piece : Piece} {later : List Piece}
    (ends : later ≠ [] → piece.endsLine = true) : FirstLine [piece] later where
  nonempty := List.cons_ne_nil _ _
  whole := by
    -- There is no piece in front of it.
    intro i inside
    rw [List.length_singleton, Nat.lt_one_iff] at inside
    rw [inside, lineOf, List.take_zero, List.countP_nil]
  ended := by
    -- With more pieces behind it the line has its one line break.
    intro more
    simp [ends more]

/-- A piece that does not end its line belongs to the first line behind it. -/
theorem FirstLine.cons {piece : Piece} {line later : List Piece} (first : FirstLine line later)
    (goesOn : piece.endsLine = false) : FirstLine (piece :: line) later where
  nonempty := List.cons_ne_nil _ _
  whole := by
    intro i inside
    cases i with
    | zero => rw [lineOf, List.take_zero, List.countP_nil]
    | succ i =>
      -- The piece adds no line break to those before the others.
      have before := first.whole i (by simpa using inside)
      simpa [lineOf, goesOn] using before
  ended := by
    intro more
    simp [goesOn, first.ended more]

/-- A row of pieces is cut into its first line and the lines behind it. -/
theorem lines_cases (pieces : List Piece) :
    pieces = [] ∨ ∃ line later, pieces = line ++ later
      ∧ lines pieces = line :: lines later ∧ FirstLine line later := by
  -- A piece that ends a line is a line of its own; any other one joins the line behind it.
  induction pieces with
  | nil => exact .inl rfl
  | cons piece rest ih =>
    refine .inr ?_
    cases ends : piece.endsLine with
    | true => exact ⟨[piece], rest, rfl, by rw [lines, if_pos ends], .single fun _ => ends⟩
    | false =>
      have goesOn : ¬ piece.endsLine = true := by simp [ends]
      rcases ih with rfl | ⟨line, later, rfl, split, first⟩
      · refine ⟨[piece], [], rfl, by simp [lines, ends], .single ?_⟩
        exact fun more => absurd rfl more
      · -- The piece is put in front of the first line behind it.
        exact ⟨piece :: line, later, rfl, by rw [lines, if_neg goesOn, split], first.cons ends⟩

namespace FirstLine

variable {line later : List Piece}

/-- A place behind the first line has one more line in front of it. -/
theorem lineOf_later (first : FirstLine line later) (more : later ≠ []) (i : Nat) :
    lineOf (line ++ later) (line.length + i) = lineOf later i + 1 := by
  -- The only line break of the line is in front of it.
  rw [lineOf, List.take_length_add_append, List.countP_append, first.ended more, Nat.add_comm]
  rfl

/-- The places on the line of a place in the first line are those in the first line. -/
theorem lineOf_eq_zero_iff (first : FirstLine line later) {j : Nat}
    (inside : j < (line ++ later).length) :
    lineOf (line ++ later) j = 0 ↔ j < line.length := by
  constructor
  · intro zero
    refine Nat.lt_of_not_le fun behind => ?_
    obtain ⟨k, rfl⟩ := Nat.exists_eq_add_of_le behind
    have more : later ≠ [] := by
      rintro rfl
      rw [List.append_nil] at inside
      omega
    -- Behind the first line the number is positive.
    rw [first.lineOf_later more] at zero
    cases zero
  · -- All places of the first line have its number.
    exact first.whole j

/-- In the first line a place is stripped when the line is a standalone one. -/
theorem stripped_iff (first : FirstLine line later) {i : Nat} (inside : i < line.length) :
    Stripped (line ++ later) i ↔ standalone line = true := by
  -- A piece stands on the line of the place exactly if it is one of the first line.
  have onLine : ∀ {j : Nat} {piece : Piece}, (line ++ later)[j]? = some piece →
      lineOf (line ++ later) j = lineOf (line ++ later) i → piece ∈ line := by
    intro j piece stands same
    obtain ⟨within, rfl⟩ := List.getElem?_eq_some_iff.mp stands
    rw [first.whole i inside, first.lineOf_eq_zero_iff within] at same
    rw [List.getElem_append_left same]
    exact List.getElem_mem same
  have place : ∀ {piece : Piece}, piece ∈ line → ∃ j : Nat, (line ++ later)[j]? = some piece
      ∧ lineOf (line ++ later) j = lineOf (line ++ later) i := by
    intro piece member
    obtain ⟨j, within, rfl⟩ := List.getElem_of_mem member
    refine ⟨j, ?_, ?_⟩
    · rw [List.getElem?_append_left within, List.getElem?_eq_getElem within]
    · rw [first.whole i inside, first.whole j within]
  rw [standalone, Bool.and_eq_true, List.any_eq_true, List.all_eq_true]
  constructor
  · -- The pieces on the line of the place are those of the first line.
    rintro ⟨⟨j, t, stands, same⟩, silent⟩
    refine ⟨⟨.tag t, onLine stands same, rfl⟩, fun piece member => ?_⟩
    obtain ⟨k, stands', same'⟩ := place member
    exact silent k piece stands' same'
  · rintro ⟨⟨piece, member, tagged⟩, silent⟩
    refine ⟨?_, fun j piece stands same => silent piece (onLine stands same)⟩
    cases piece with
    | char c offset => cases tagged
    | tag t =>
      obtain ⟨j, stands, same⟩ := place member
      exact ⟨j, t, stands, same⟩

/-- Behind the first line a place is stripped when it is without the first line. -/
theorem stripped_later_iff (first : FirstLine line later) {i : Nat} (inside : i < later.length) :
    Stripped (line ++ later) (line.length + i) ↔ Stripped later i := by
  have more : later ≠ [] := List.ne_nil_of_length_pos (Nat.zero_lt_of_lt inside)
  have number := first.lineOf_later more
  have stands : ∀ j : Nat, (line ++ later)[line.length + j]? = later[j]? := by
    intro j
    rw [List.getElem?_append_right (Nat.le_add_right ..), Nat.add_sub_cancel_left]
  -- The places on the same line all lie behind the first line.
  have behind : ∀ {j : Nat} {piece : Piece}, (line ++ later)[j]? = some piece →
      lineOf (line ++ later) j = lineOf (line ++ later) (line.length + i) →
      ∃ k, j = line.length + k := by
    intro j piece found same
    refine Nat.exists_eq_add_of_le (Nat.le_of_not_lt fun early => ?_)
    rw [first.whole j early, number] at same
    cases same
  constructor
  · -- A place behind the first line is the same place in the lines behind it, and back.
    rintro ⟨⟨j, t, found, same⟩, silent⟩
    obtain ⟨k, rfl⟩ := behind found same
    rw [number, number, Nat.add_right_cancel_iff] at same
    refine ⟨⟨k, t, stands k ▸ found, same⟩, fun j piece found same => ?_⟩
    exact silent (line.length + j) piece ((stands j).trans found) (by rw [number, number, same])
  · rintro ⟨⟨j, t, found, same⟩, silent⟩
    refine ⟨⟨line.length + j, t, (stands j).trans found, by rw [number, number, same]⟩,
      fun j piece found same => ?_⟩
    obtain ⟨k, rfl⟩ := behind found same
    rw [number, number, Nat.add_right_cancel_iff] at same
    exact silent k piece (stands k ▸ found) same

end FirstLine

end Mustache.Piece
