import Mathlib.Algebra.GroupWithZero.Nat
import Mathlib.Data.List.Basic
import Mustache.Proofs.FirstFault
import Mustache.Proofs.Part

/-!
Places: a line and a column say an offset exactly, and every fault of a template has a place.

The lines before a place and the column in its own line count the characters before it.
-/

namespace Mustache

namespace Text

/-- The number of characters of the first lines of a text, each with its line break. -/
def sizeOfLines (t : Text) (count : Nat) : Nat :=
  (((lines t).take count).map (·.length + 1)).sum

end Text

namespace Location

/-- The place says an offset of the source: how many characters are before it, on which lines. -/
structure Marks (place : Location) (source : Text) (offset : Int) : Prop where
  /-- The offset is the number of characters before the place. -/
  offset_eq : place.offset = offset
  /-- The lines count from one. -/
  one_le_line : 1 ≤ place.line
  /-- There is one line more than there are line breaks. -/
  line_le : place.line ≤ source.count '\n' + 1
  /-- The columns count from one. -/
  one_le_column : 1 ≤ place.column
  /-- The place is in its line or just behind it, before its line break. -/
  column_le : ∃ line, (Text.lines source)[(place.line - 1).toNat]? = some line
    ∧ place.column ≤ line.length + 1
  /-- The lines before the place and the characters before it on its own line make the offset. -/
  size_eq : Text.sizeOfLines source (place.line - 1).toNat + (place.column - 1) = offset

/-- The place has a smaller line, or the same line and a smaller column. -/
def Precedes (place later : Location) : Prop :=
  place.line < later.line ∨ place.line = later.line ∧ place.column < later.column

/-- A line break leaves an empty last line. -/
theorem lastLine_concat_lineBreak (t : Text) : lastLine (t ++ ['\n']) = [] := by
  -- Behind a line break nothing stands yet.
  simp [lastLine]

/-- Any other character extends the last line. -/
theorem lastLine_concat {c : Char} (other : c ≠ '\n') (t : Text) :
    lastLine (t ++ [c]) = lastLine t ++ [c] := by
  -- The character goes on with the line.
  simp [lastLine, other]

/-- The lines of a text in two parts: whole ones, the one that is cut, and those of the rest. -/
theorem lines_append (t later : Text) :
    ∃ whole, Text.lines (t ++ later)
        = whole ++ (lastLine t ++ (Text.pieces '\n' later).1) :: (Text.pieces '\n' later).2
      ∧ whole.length = t.count '\n'
      ∧ (whole.map (·.length + 1)).sum + (lastLine t).length = t.length := by
  -- The first part grows at its end, by a character that comes first in the rest.
  induction t using List.reverseRecOn generalizing later with
  | nil => exact ⟨[], rfl, rfl, rfl⟩
  | append_singleton t c ih =>
    obtain ⟨whole, split, count, size⟩ := ih (c :: later)
    rw [List.append_assoc, List.singleton_append, split]
    by_cases break' : c = '\n'
    -- A line break ends the line that is cut, and any other character makes it longer.
    · subst break'
      refine ⟨whole ++ [lastLine t], ?_, ?_, ?_⟩
      · simp [Text.pieces, lastLine_concat_lineBreak]
      · simp [count]
      · simp only [List.map_append, List.map_cons, List.map_nil, List.sum_append, List.sum_cons,
          List.sum_nil, lastLine_concat_lineBreak, List.length_append, List.length_cons,
          List.length_nil]
        omega
    · refine ⟨whole, ?_, ?_, ?_⟩
      · simp [Text.pieces, lastLine_concat break', break']
      · simp [count, break']
      · simp only [lastLine_concat break', List.length_append, List.length_cons, List.length_nil]
        omega

/-- The place between two parts of a source says how many characters the first part has. -/
theorem ofOffset_append (before later : Text) :
    ofOffset (before ++ later) before.length
      = ⟨before.count '\n' + 1, (lastLine before).length + 1, before.length⟩ := by
  -- The source is cut at the offset, which gives the first part back.
  have inside : min (before.length : Int).toNat (before ++ later).length = before.length := by
    simp
  simp only [ofOffset, inside, List.take_left]

/-- An offset outside the source is moved to its nearer end. -/
theorem ofOffset_clamped (source : Text) (offset : Int) :
    ofOffset source offset = ofOffset source (max 0 (min offset source.length)) := by
  -- Only the offset as it is moved into the source is used.
  have same : min offset.toNat source.length
      = min (max 0 (min offset source.length)).toNat source.length := by omega
  simp only [ofOffset, same]

/-- Every number from zero to the length of a source cuts it into two parts. -/
theorem exists_cut (source : Text) (offset : Int) :
    ∃ before later, source = before ++ later
      ∧ (before.length : Int) = max 0 (min offset source.length) := by
  -- The source is cut where the offset is, or at the nearer end.
  refine ⟨source.take offset.toNat, source.drop offset.toNat,
    (List.take_append_drop _ source).symm, ?_⟩
  rw [List.length_take]
  omega

/-- The place between two parts of a source says where it is cut. -/
theorem marks_append (before later : Text) :
    (ofOffset (before ++ later) before.length).Marks (before ++ later) before.length := by
  -- The source is divided into whole lines and the line that is cut.
  obtain ⟨whole, split, count, size⟩ := lines_append before later
  rw [ofOffset_append, ← count]
  -- The whole lines in front of the cut are those with a smaller number.
  have lineIndex : ((whole.length + 1 : Int) - 1).toNat = whole.length := by omega
  constructor
  · rfl
  · dsimp only
    omega
  · dsimp only
    rw [List.count_append, ← count]
    omega
  · dsimp only
    omega
  · refine ⟨lastLine before ++ (Text.pieces '\n' later).1, ?_, ?_⟩
    · dsimp only
      rw [lineIndex, split, List.getElem?_append_right (Nat.le_refl _), Nat.sub_self]
      rfl
    · dsimp only
      rw [List.length_append]
      omega
  · dsimp only
    rw [lineIndex, Text.sizeOfLines, split, List.take_left]
    omega

/-- The place at an offset says that offset, moved to the nearer end when it is outside. -/
theorem ofOffset_marks (source : Text) (offset : Int) :
    (ofOffset source offset).Marks source (max 0 (min offset source.length)) := by
  -- Where the offset has been moved to the source can be cut in two.
  rw [ofOffset_clamped]
  obtain ⟨before, later, cut, inside⟩ := exists_cut source offset
  rw [← inside, cut]
  exact marks_append before later

/-- Places come in the order of the offsets that they say. -/
theorem precedes_of_lt {source : Text} {offset later : Int}
    (less : max 0 (min offset source.length) < max 0 (min later source.length)) :
    (ofOffset source offset).Precedes (ofOffset source later) := by
  have here := ofOffset_marks source offset
  have there := ofOffset_marks source later
  -- There are no fewer line breaks before the later offset.
  have noLess : (ofOffset source offset).line ≤ (ofOffset source later).line := by
    have : (source.take (min offset.toNat source.length)).count '\n'
        ≤ (source.take (min later.toNat source.length)).count '\n' :=
      (List.take_sublist_take_left (by omega)).count_le _
    simp only [ofOffset]
    omega
  rcases Int.lt_or_eq_of_le noLess with before | same
  · exact .inl before
  · -- On one line the columns differ as the offsets do.
    have first := here.size_eq
    have second := there.size_eq
    rw [same] at first
    exact .inr ⟨same, by omega⟩

/-- One place precedes another exactly if it says a smaller offset. -/
theorem precedes_iff {source : Text} {offset later : Int} :
    (ofOffset source offset).Precedes (ofOffset source later)
      ↔ max 0 (min offset source.length) < max 0 (min later source.length) := by
  -- The other direction is known, and with it the order is total.
  refine ⟨fun precedes => ?_, precedes_of_lt⟩
  by_contra noLess
  rcases Int.lt_or_eq_of_le (Int.not_lt.mp noLess) with greater | same
  · -- Two places never precede each other.
    have reversed := precedes_of_lt greater
    simp only [Precedes] at precedes reversed
    omega
  · rw [ofOffset_clamped, ← same, ← ofOffset_clamped] at precedes
    simp [Precedes] at precedes

end Location

/-- A reading ends with a fault inside its text, if it does. -/
theorem Reads.fault_within {pair : Delimiters} {offset : Nat} {text : Text} {reading : Reading}
    (reads : Reads pair offset text reading) {fault : Fault} (failed : reading.fault = some fault) :
    fault.offset ≤ offset + text.length := by
  -- A fault is at the end of the text, or where its tag begins.
  induction reads with
  | finished _ => cases failed
  | unclosed _ _ =>
    cases failed
    exact Nat.le_refl _
  | invalid _ _ _ =>
    cases failed
    simp only [Fault.offset, List.length_append]
    omega
  | tag _ _ _ stops _ ih =>
    -- What is left behind a tag ends where the whole text does.
    rw [← stops]
    exact ih failed

/-- The first fault of a source is inside it. -/
theorem FirstFault.within {source : Text} {pair : Delimiters} {reading : Reading} {fault : Fault}
    (reads : Reads pair 0 source reading) (first : FirstFault source reading fault) :
    fault.offset ≤ source.length := by
  -- The cases are the kinds of faults; one that shows at the end is at the end.
  cases first with
  | @misplaced before later closer _ split misplaced =>
    -- A misplaced closing tag is one of the tags of the source.
    have member : closer ∈ Piece.tags reading.pieces :=
      split ▸ List.mem_append_right before (.head later)
    obtain ⟨piece, among, same⟩ := List.mem_filterMap.mp member
    cases piece with
    | char c place => cases same
    | tag tag =>
      cases same
      have within := reads.tag_within among
      cases misplaced <;> (simp only [Fault.offset]; omega)
  | unclosedTag _ _ => exact Nat.le_refl _
  | invalidTags _ invalid =>
    have within := reads.fault_within invalid
    omega
  | unfinished _ _ => exact Nat.le_refl _

/--
Lines and columns say offsets exactly, in their order, and faults are reported with them.

The place at an offset, moved to the nearer end of the source when it is outside, says that offset,
and of two places the one with the smaller offset comes first.
The report of a malformed source has an offset inside the source, the line and the column there, and
the message behind them.
-/
theorem Location.ofOffset_exact (source : Text) :
    (∀ offset : Int, (ofOffset source offset).Marks source (max 0 (min offset source.length)))
      ∧ (∀ offset later : Int, (ofOffset source offset).Precedes (ofOffset source later)
          ↔ max 0 (min offset source.length) < max 0 (min later source.length))
      ∧ ∀ pair fault, Template.parse source pair = .error fault →
          ∃ offset : Int, 0 ≤ offset ∧ offset ≤ source.length
            ∧ (fault.toError source).offset = some offset
            ∧ (fault.toError source).line = some (ofOffset source offset).line
            ∧ (fault.toError source).column = some (ofOffset source offset).column
            ∧ (fault.toError source).location = some (ofOffset source offset)
            ∧ (fault.toError source).toText = (ofOffset source offset).toText
                ++ ' ' :: (fault.toError source).message := by
  refine ⟨ofOffset_marks source, fun _ _ => precedes_iff, fun pair fault failed => ?_⟩
  have within : fault.offset ≤ source.length :=
    FirstFault.within (reads_iff.mpr rfl)
      (Template.fault?_eq_some_iff.mp (Template.parse_eq_error_iff.mp failed))
  -- The offset of the fault is inside the source, so it stays as it is.
  have same : (ofOffset source fault.offset).offset = fault.offset := by
    simp only [ofOffset]
    omega
  have location : (fault.toError source).location = some (ofOffset source fault.offset) :=
    congrArg (fun offset => some (Location.mk (ofOffset source fault.offset).line
      (ofOffset source fault.offset).column offset)) same.symm
  -- Line, column and message are those of this place by definition.
  refine ⟨fault.offset, Int.natCast_nonneg _, by omega, rfl, rfl, rfl, location, ?_⟩
  rw [ParseError.toText, location]

/-- A section left open on the second line is reported with that line. -/
theorem Location.ofOffset_exact_open_section :
    let source : Text := ['a', '\n', '\x7b', '\x7b', '#', 'b', '\x7d', '\x7d']
    let fault := Fault.unclosedSection ['b'] 8
    Template.parse source .default = .error fault
      ∧ (ofOffset source 99).Marks source 8
      ∧ (ofOffset source 1).Precedes (ofOffset source 2)
      ∧ (fault.toError source).location = some ⟨2, 7, 8⟩
      ∧ (fault.toError source).toText = Text.ofString "2:7 " ++ (fault.toError source).message := by
  have failed : Template.parse ['a', '\n', '\x7b', '\x7b', '#', 'b', '\x7d', '\x7d'] .default
      = .error (.unclosedSection ['b'] 8) := by decide +kernel
  obtain ⟨marks, order, report⟩ :=
    -- The report is that of the general statement, and only its numbers are computed.
    ofOffset_exact ['a', '\n', '\x7b', '\x7b', '#', 'b', '\x7d', '\x7d']
  obtain ⟨offset, -, -, said, -, -, location, message⟩ := report _ _ failed
  obtain rfl := Option.some.inj said
  -- The tag ends where the source does, behind six characters of the second line.
  have place : (ofOffset ['a', '\n', '\x7b', '\x7b', '#', 'b', '\x7d', '\x7d'] 8).toText ++ [' ']
      = Text.ofString "2:7 " := by
    simp only [Text.ofString]
    decide +kernel
  refine ⟨failed, marks 99, (order 1 2).mpr (by decide), location, ?_⟩
  rw [← place, List.append_assoc]
  exact message

end Mustache
