import Mustache.Proofs.Inner

/-!
What stands before the references of a template on their lines.

A reference records what a template has between the last line break of its text and the reference.
-/

namespace Mustache

namespace Piece

/-- The characters of text in a row of pieces. -/
def text (pieces : List Piece) : Text := (pieces.filterMap character?).map Prod.fst

/-- The indentation before a tag is the text before it, with spaces for the characters that show. -/
theorem indentation_ofPieces (before : List Piece) :
    (LinePrefix.ofPieces before).indentation
      = (text before).map fun c => if Text.isBlank c then c else ' ' := by
  -- Each character leaves one blank, and a tag leaves none.
  rw [text, List.map_map, List.map_filterMap]
  refine List.filterMap_congr fun piece _ => ?_
  cases piece <;> rfl

/-- There is text before a tag on its line when a character that shows stands there. -/
theorem hasText_ofPieces (before : List Piece) :
    (LinePrefix.ofPieces before).hasText = true ↔ ∃ c ∈ text before, Text.isBlank c = false := by
  simp only [LinePrefix.ofPieces, List.any_eq_true, text, List.mem_map, List.mem_filterMap]
  constructor
  · rintro ⟨piece, member, visible⟩
    -- A tag is no character that shows.
    cases piece with
    | tag t => cases visible
    | char c offset =>
      exact ⟨c, ⟨(c, offset), ⟨_, member, rfl⟩, rfl⟩, by simpa [isVisible] using visible⟩
  · -- The character is there as a piece, and so it counts.
    rintro ⟨c, ⟨_, ⟨piece, member, found⟩, rfl⟩, shows⟩
    cases piece with
    | tag t => cases found
    | char c offset =>
      cases found
      exact ⟨_, member, by simpa [isVisible] using shows⟩

/-- No piece of the first line but its last one ends it. -/
theorem FirstLine.goesOn {line later front back : List Piece} (first : FirstLine line later)
    (split : line = front ++ back) (more : back ≠ []) :
    ∀ piece ∈ front, piece.endsLine = false := by
  intro piece member
  -- There is a piece behind the front part.
  have inside : front.length < line.length := by
    rw [split, List.length_append]
    have := List.length_pos_iff.mpr more
    omega
  -- There is no line break before the place behind the front part.
  have none := first.whole front.length inside
  rw [lineOf, split, List.append_assoc, List.take_left, List.countP_eq_zero] at none
  exact Bool.eq_false_iff.mpr (none piece member)

/-- The last piece of the first line ends it if pieces come behind it. -/
theorem FirstLine.last {line later : List Piece} (first : FirstLine line later)
    (more : later ≠ []) : ∀ piece ∈ line.getLast?, piece.endsLine = true := by
  intro piece last
  -- The line is its last piece and those before it.
  obtain ⟨front, rfl⟩ := List.getLast?_eq_some_iff.mp last
  -- The one line break of the line is not in front of its last piece.
  have none := List.countP_eq_zero.mpr fun p member => by
    simpa using first.goesOn rfl (List.cons_ne_nil piece []) p member
  have one := first.ended more
  rw [List.countP_append, none, Nat.zero_add, List.countP_singleton] at one
  split at one
  · assumption
  · cases one

/-- Where a line is cut from its pieces, a line break stands in front, and none stands inside. -/
theorem line_of_mem_lines {pieces line : List Piece} (member : line ∈ lines pieces) :
    ∃ earlier later, pieces = earlier ++ line ++ later
      ∧ (∀ piece ∈ earlier.getLast?, piece.endsLine = true)
      ∧ ∀ front back, line = front ++ back → back ≠ [] →
          ∀ piece ∈ front, piece.endsLine = false := by
  -- The induction is on the number of pieces: the first line is taken off.
  induction length : pieces.length using Nat.strongRecOn generalizing pieces with
  | ind n ih =>
    subst length
    rcases lines_cases pieces with rfl | ⟨start, rest, rfl, split, first⟩
    · cases member
    rw [split] at member
    rcases List.mem_cons.mp member with rfl | behind
    · exact ⟨[], rest, rfl, by simp, fun front back => first.goesOn⟩
    · have shorter : rest.length < (start ++ rest).length := by
        have := List.length_pos_iff.mpr first.nonempty
        rw [List.length_append]
        omega
      obtain ⟨earlier, later, rfl, broken, whole⟩ := ih _ shorter behind rfl
      refine ⟨start ++ earlier, later, by simp, fun piece last => ?_, whole⟩
      cases earlier with
      | nil =>
        -- The line comes right behind the first one.
        rw [List.append_nil] at last
        refine first.last (fun none => ?_) piece last
        rw [none] at behind
        cases behind
      | cons p earlier =>
        rw [List.getLast?_append_of_ne_nil _ (List.cons_ne_nil p earlier)] at last
        exact broken piece last

/-- A reference among the elements of a line is that of a tag, with what stands before the tag. -/
theorem inclusion_of_mem_lineFlats {keepsText : Bool} {start recorded : LinePrefix}
    {line : List Piece} {name : Text} {span : Span}
    (member : .leaf (.inclusion name span recorded) ∈ lineFlats keepsText start line) :
    ∃ before tag after, line = before ++ .tag tag :: after ∧ tag.sigil = .inclusion
      ∧ tag.body = name ∧ tag.span = span
      ∧ recorded = (before.foldl LinePrefix.extend start).turned := by
  induction line generalizing start with
  | nil => cases member
  | cons piece line ih =>
    -- What is found behind the first piece is found with the prefix extended by it.
    have behind : .leaf (.inclusion name span recorded)
          ∈ lineFlats keepsText (start.extend piece) line →
        ∃ before tag after, piece :: line = before ++ .tag tag :: after ∧ tag.sigil = .inclusion
          ∧ tag.body = name ∧ tag.span = span
          ∧ recorded = (before.foldl LinePrefix.extend start).turned := by
      intro later
      obtain ⟨before, tag, after, rfl, found⟩ := ih later
      exact ⟨piece :: before, tag, after, rfl, found⟩
    cases piece with
    | char c offset =>
      cases keepsText with
      | true => exact behind (by simpa [lineFlats] using member)
      | false => exact behind (by simpa [lineFlats] using member)
    -- The tag is the one looked for, or it stands behind this one.
    | tag t =>
      rcases List.mem_cons.mp member with same | later
      · obtain ⟨sigil, body, start, stop⟩ := t
        cases sigil <;> cases same
        exact ⟨[], _, line, rfl, rfl, rfl, rfl, rfl⟩
      · exact behind later

end Piece

/-- An element that is no text is among those in which neighbouring texts are written as one. -/
theorem Flat.mem_of_mem_merge {flats : List Flat} {flat : Flat} (noText : flat.isText = false)
    (member : flat ∈ merge flats) : flat ∈ flats := by
  -- Writing texts as one leaves all other elements.
  have kept : flat ∈ (merge flats).filter (!·.isText) :=
    List.mem_filter.mpr ⟨member, by simp [noText]⟩
  rw [filter_merge] at kept
  exact (List.mem_filter.mp kept).1

/--
A reference of a template records what stands before it on its line, at whatever depth it is.

The line begins behind the last line break of the text in front of the reference,
wherever there are line breaks inside tags.
-/
theorem Template.line_of_parse {source : Text} {pair : Delimiters} {tokens row : List Token}
    (parsed : parse source pair = .ok tokens) (siblings : Token.Siblings tokens row) {name : Text}
    {span : Span} {recorded : LinePrefix} (member : .inclusion name span recorded ∈ row) :
    ∃ (earlier current later : List Piece) (tag : Tag),
      (∀ reading, Reads pair 0 source reading
          ↔ reading = ⟨earlier ++ current ++ .tag tag :: later, none⟩)
        ∧ tag.sigil = .inclusion ∧ tag.body = name ∧ tag.span = span
        ∧ (∀ piece ∈ earlier.getLast?, piece.endsLine = true)
        ∧ (∀ piece ∈ current, piece.endsLine = false)
        ∧ recorded.indentation
            = (Piece.text current).map (fun c => if Text.isBlank c then c else ' ')
        ∧ (recorded.hasText = true ↔ ∃ c ∈ Piece.text current, Text.isBlank c = false)
        ∧ recorded.tagIndex = current.countP Piece.isTag := by
  obtain ⟨pieces, reads, -, whole⟩ := flattenAll_of_parse parsed
  -- The reference is an element of the tree, so it is one of its line.
  obtain ⟨front, back, rfl⟩ := List.append_of_mem member
  have element : .leaf (.inclusion name span recorded) ∈ Token.flattenAll tokens :=
    siblings.flattenAll_within.subset
      (by simp [Token.flattenAll_append, Token.flattenAll, Token.flatten])
  rw [whole] at element
  obtain ⟨line, onLine, place⟩ := List.mem_flatMap.mp (Flat.mem_of_mem_merge rfl element)
  obtain ⟨earlier, later, rfl, broken, goesOn⟩ := Piece.line_of_mem_lines onLine
  obtain ⟨current, tag, after, rfl, sigil, body, stands, rfl⟩ :=
    Piece.inclusion_of_mem_lineFlats place
  -- Its line is divided at the tag, and what stands before it was recorded piece by piece.
  rw [LinePrefix.turned_foldl_extend]
  refine ⟨earlier, current, after ++ later, tag, fun reading => ?_, sigil, body, stands, broken,
    goesOn current _ rfl (List.cons_ne_nil _ _), Piece.indentation_ofPieces current,
    Piece.hasText_ofPieces current, rfl⟩
  rw [reads_iff, ← reads_iff.mp reads, List.append_assoc, List.append_assoc, List.append_assoc]
  rfl

/-- Behind a stripped line, a comment of two lines and a change of delimiters count as two tags. -/
theorem Template.line_of_parse_switched :
    let source : Text :=
      "\x7b\x7b#s\x7d\x7d\n x\x7b\x7b!a\nb\x7d\x7d\t\x7b\x7b=<% %>=\x7d\x7d<%>p%><%/s%>".toList
    ∃ (earlier current later : List Piece) (tag : Tag),
      Reads .default 0 source ⟨earlier ++ current ++ .tag tag :: later, none⟩
        ∧ tag.span = ⟨29, 35⟩
        ∧ [' ', ' ', '\t']
          = (Piece.text current).map (fun c => if Text.isBlank c then c else ' ')
        ∧ (∃ c ∈ Piece.text current, Text.isBlank c = false)
        ∧ (2 : Int) = current.countP Piece.isTag := by
  -- The template is parsed by evaluation.
  have parsed : parse
      "\x7b\x7b#s\x7d\x7d\n x\x7b\x7b!a\nb\x7d\x7d\t\x7b\x7b=<% %>=\x7d\x7d<%>p%><%/s%>".toList
      .default = .ok [.block false ['s'] ⟨0, 6⟩
        [.text [' ', 'x'] ⟨7, 9⟩, .comment ['a', '\n', 'b'] ⟨9, 17⟩, .text ['\t'] ⟨17, 18⟩,
          .switch ['<', '%', ' ', '%', '>'] ⟨18, 29⟩,
          .inclusion ['p'] ⟨29, 35⟩ ⟨[' ', ' ', '\t'], 2, true⟩] 35] := by
    decide +kernel
  -- The reference is the last child of the section.
  obtain ⟨earlier, current, later, tag, reads, -, -, stands, -, -, indentation, text, tags⟩ :=
    line_of_parse parsed (.inside .top (List.mem_singleton_self _))
      (List.getLast_mem (List.cons_ne_nil _ _))
  exact ⟨earlier, current, later, tag, (reads _).mpr rfl, stands, indentation, text.mp rfl, tags⟩

end Mustache
