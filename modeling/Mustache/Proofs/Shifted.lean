import Mustache.Proofs.FirstFault
import Mustache.Proofs.Moved

/-!
A text that stands further on in a source: its pieces, its first fault and its token tree.

All offsets are further on by the same distance, those of texts included, and nothing else differs.
-/

namespace Mustache

/-- A fault that shows further on. -/
def Fault.moved (distance : Nat) : Fault → Fault
  | .unclosedTag offset => .unclosedTag (offset + distance)
  | .unopenedSection name offset => .unopenedSection name (offset + distance)
  | .unclosedSection name offset => .unclosedSection name (offset + distance)
  | .invalidTags words offset => .invalidTags words (offset + distance)

/-- A reading of a text that stands further on. -/
def Reading.moved (distance : Nat) (reading : Reading) : Reading :=
  ⟨reading.pieces.map (Piece.moved distance), reading.fault.map (Fault.moved distance)⟩

/-- A text that stands further on reads as it does, with all offsets further on. -/
theorem Reads.moved {pair : Delimiters} {offset : Nat} {text : Text} {reading : Reading}
    (reads : Reads pair offset text reading) (distance : Nat) :
    Reads pair (offset + distance) text (reading.moved distance) := by
  -- The induction follows the reading, whose last piece or fault is further on as well.
  induction reads with
  | finished absent =>
    rw [Reading.moved, ← Piece.ofText_add]
    exact .finished absent
  | @unclosed pair offset before later opened unread =>
    have reads : Reads pair (offset + distance) (before ++ later) _ := .unclosed opened unread
    rwa [Reading.moved, ← Piece.ofText_add, Option.map_some, Fault.moved, Nat.add_right_comm]
  | @invalid pair offset before later body rest opened tag few =>
    have reads : Reads pair (offset + distance) (before ++ later) _ := .invalid opened tag few
    rwa [Reading.moved, ← Piece.ofText_add, Option.map_some, Fault.moved, Nat.add_right_comm]
  | @tag pair next offset stop before later body rest sigil reading opened tag follows stops _ ih =>
    -- The place behind the tag is further on by as much as the one in front of it.
    have stops' : stop + distance + rest.length = offset + distance + (before ++ later).length := by
      omega
    have reads : Reads pair (offset + distance) (before ++ later) _ :=
      .tag opened tag follows stops' ih
    rwa [Reading.moved, List.map_append, List.map_cons, ← Piece.ofText_add, Piece.moved, Tag.moved,
      Nat.add_right_comm]

namespace Piece

/-- Sections that stand further on are open or misplaced as they were. -/
theorem openAfter_moved (distance : Nat) (stack : List Tag) (pieces : List Piece) :
    openAfter (stack.map (Tag.moved distance)) (pieces.map (moved distance))
      = ((openAfter stack pieces).map (List.map (Tag.moved distance))).mapError
          (Fault.moved distance) := by
  -- The induction is on the pieces, with the tags on the stack as far on as those in the row.
  induction pieces generalizing stack with
  | nil => rfl
  | cons piece rest ih =>
    cases piece with
    | char c offset => exact ih stack
    | tag t =>
      have sigil : (t.moved distance).sigil = t.sigil := rfl
      rw [List.map_cons, moved]
      cases opens : t.sigil.opensSection with
      | true => rw [openAfter_opener opens, openAfter_opener (sigil ▸ opens), ← ih, List.map_cons]
      | false =>
        by_cases closes : t.sigil = .closer
        · cases stack with
          | nil =>
            rw [List.map_nil, openAfter_unopened closes, openAfter_unopened (sigil ▸ closes)]
            rfl
          | cons innermost outer =>
            -- The names are the same as before.
            rw [List.map_cons, openAfter_closer closes, openAfter_closer (sigil ▸ closes)]
            by_cases named : innermost.body = t.body
            · rw [if_pos named]
              exact (if_pos named).trans (ih outer)
            · rw [if_neg named]
              exact if_neg named
        · rw [openAfter_other opens closes, openAfter_other (sigil ▸ opens) (sigil ▸ closes), ih]

/-- Behind pieces in which all sections are closed the others open and close their own. -/
theorem openAfter_append {before : List Piece} (balanced : Balanced (tags before))
    (later : List Piece) : openAfter [] (before ++ later) = openAfter [] later := by
  -- Only the tags count.
  rw [← openAfter_map_tags, tags_append, List.map_append, openAfter_balanced balanced,
    openAfter_map_tags]

end Piece

mutual

/-- A token with all offsets further on by a distance. -/
def Token.shifted (distance : Int) : Token → Token
  | .text value span => .text value (span.moved distance)
  | .variable escaped path span => .variable escaped path (span.moved distance)
  | .comment value span => .comment value (span.moved distance)
  | .switch value span => .switch value (span.moved distance)
  | .inclusion name span line => .inclusion name (span.moved distance) line
  | .block inverted name span children closeStart =>
    .block inverted name (span.moved distance) (shiftedAll distance children) (closeStart + distance)

/-- Tokens with all offsets further on by a distance. -/
def Token.shiftedAll (distance : Int) : List Token → List Token
  | [] => []
  | token :: tokens => token.shifted distance :: shiftedAll distance tokens

end

/-- An element with all offsets further on by a distance. -/
def Flat.shifted (distance : Int) : Flat → Flat
  | .leaf token => .leaf (token.shifted distance)
  | .opening inverted name span => .opening inverted name (span.moved distance)
  | .closing name start => .closing name (start + distance)

mutual

/-- The elements of a token are shifted one by one. -/
theorem Token.flatten_shifted (distance : Int) (token : Token) :
    (token.shifted distance).flatten = token.flatten.map (Flat.shifted distance) := by
  match token with
  | .text _ _ | .variable _ _ _ | .comment _ _ | .switch _ _ | .inclusion _ _ _ => rfl
  | .block _ _ _ children _ =>
    -- The opening and the closing tag are shifted like the elements of the children.
    simp [shifted, flatten, Flat.shifted, Token.flattenAll_shiftedAll distance children]

/-- The elements of a row of tokens are shifted one by one. -/
theorem Token.flattenAll_shiftedAll (distance : Int) (tokens : List Token) :
    flattenAll (shiftedAll distance tokens) = (flattenAll tokens).map (Flat.shifted distance) := by
  -- A token and the rest of the row have elements of their own.
  match tokens with
  | [] => rfl
  | token :: tokens =>
    rw [shiftedAll, flattenAll, Token.flatten_shifted distance token,
      Token.flattenAll_shiftedAll distance tokens, flattenAll, List.map_append]

end

/-- Offsets may be shifted before or after texts are written as one. -/
theorem Flat.merge_shifted (distance : Int) (flats : List Flat) :
    merge (flats.map (shifted distance)) = (merge flats).map (shifted distance) := by
  -- Shifting makes no text of another element, nor anything else of a text.
  have kind : ∀ flat : Flat, (flat.shifted distance).isText = flat.isText := by
    intro flat
    rcases flat with token | _ | _
    · cases token <;> rfl
    · rfl
    · rfl
  induction flats with
  | nil => rfl
  | cons flat rest ih =>
    cases text : flat.isText with
    | false =>
      rw [List.map_cons, merge_cons ((kind flat).trans text), merge_cons text, ih, List.map_cons]
    | true =>
      obtain ⟨value, span, rfl⟩ := eq_of_isText text
      rw [List.map_cons, shifted, Token.shifted]
      -- Whether the next element is a text does not depend on where it stands.
      rcases merge_text_cases value span rest with
        ⟨more, later, others, same, -, whole⟩ | ⟨none, whole⟩
      · rw [same] at ih
        rw [whole, merge, ih]
        rfl
      · have none' : NoTextFirst (merge (rest.map (shifted distance))) := by
          intro flat first
          rw [ih, List.head?_map] at first
          obtain ⟨flat', first', rfl⟩ := Option.map_eq_some_iff.mp first
          exact (kind flat').trans (none flat' first')
        rw [whole, merge_text none', ih]
        rfl

/-- The element of a tag that stands further on. -/
theorem Tag.toFlat_moved (distance : Nat) (tag : Tag) (before : LinePrefix) :
    (tag.moved distance).toFlat before = (tag.toFlat before).shifted distance := by
  -- Each sigil has an element of its own.
  obtain ⟨sigil, body, start, stop⟩ := tag
  cases sigil <;> rfl

namespace Piece

/-- A piece is as much of a line wherever it stands. -/
theorem extend_moved (distance : Nat) (before : LinePrefix) (piece : Piece) :
    before.extend (piece.moved distance) = before.extend piece := by
  -- Offsets do not count in a line.
  cases piece <;> rfl

/-- The elements of a line that stands further on. -/
theorem lineFlats_moved (distance : Nat) (keepsText : Bool) (before : LinePrefix)
    (line : List Piece) :
    lineFlats keepsText before (line.map (moved distance))
      = (lineFlats keepsText before line).map (Flat.shifted distance) := by
  -- The induction is on the line; what stands before a piece has no offsets.
  induction line generalizing before with
  | nil => rfl
  | cons piece line ih =>
    have same := extend_moved distance before piece
    cases piece with
    | tag t =>
      rw [moved] at same
      rw [List.map_cons, moved, lineFlats, Tag.toFlat_moved, same, ih, lineFlats, List.map_cons]
    | char c offset =>
      rw [moved] at same
      rw [List.map_cons, moved, lineFlats, same, ih, lineFlats]
      -- A character is kept with the text of its line.
      cases keepsText with
      | false => rfl
      | true =>
        have stop : ((offset + distance : Nat) : Int) + 1 = offset + 1 + distance := by omega
        rw [if_pos rfl, if_pos rfl, List.map_cons, stop]
        rfl

/-- Where lines end does not depend on where they stand. -/
theorem lines_moved (distance : Nat) (pieces : List Piece) :
    lines (pieces.map (moved distance)) = (lines pieces).map (List.map (moved distance)) := by
  -- The induction is on the pieces; where a line ends depends on the piece alone.
  induction pieces with
  | nil => rfl
  | cons piece rest ih =>
    have ends : (piece.moved distance).endsLine = piece.endsLine := by cases piece <;> rfl
    rw [List.map_cons, lines, lines, ends, ih]
    split
    · rfl
    · -- The piece begins the first of the lines behind it, or is a line by itself.
      cases lines rest <;> rfl

/-- A line is standalone wherever it stands. -/
theorem standalone_moved (distance : Nat) (line : List Piece) :
    standalone (line.map (moved distance)) = standalone line := by
  -- What a piece is does not depend on its offset.
  have tag : ∀ piece : Piece, (piece.moved distance).isTag = piece.isTag := by
    intro piece
    cases piece <;> rfl
  have silent : ∀ piece : Piece, (piece.moved distance).isSilent = piece.isSilent := by
    intro piece
    cases piece <;> rfl
  rw [standalone, standalone, List.any_map, List.all_map]
  simp only [Function.comp_def, tag, silent]

/-- The elements of pieces that stand further on. -/
theorem flats_moved (distance : Nat) (pieces : List Piece) :
    flats (pieces.map (moved distance)) = (flats pieces).map (Flat.shifted distance) := by
  -- Each line contributes its own elements.
  rw [flats, lines_moved, List.flatMap_map, flats, List.map_flatMap]
  refine List.flatMap_congr fun line _ => ?_
  rw [standalone_moved, lineFlats_moved]

end Piece

end Mustache
