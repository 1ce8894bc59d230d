import Mathlib.Data.List.Forall2
import Mustache.Indentation

/-!
Indenting a template that is indented already.

Indenting keeps the lines of a template apart, so that the margins of templates which are included
in each other add up, the outermost first.
-/

namespace Mustache.Indentation

/-- A margin consists of spaces and tabs. -/
theorem space_or_tab_of_mem_margin {indentation : Text} {c : Char}
    (member : c ∈ margin indentation) : c = ' ' ∨ c = '\t' := by
  -- Everything else was filtered out.
  simpa [margin] using (List.mem_filter.mp member).2

/-- The margin of two indentations behind each other is that of the first and then of the second. -/
theorem margin_append (outer inner : Text) :
    margin (outer ++ inner) = margin outer ++ margin inner := by
  -- A margin keeps characters one by one.
  simp [margin]

/-- There is no line break in an indented line. -/
theorem notMem_indentLine {line : Text} (single : '\n' ∉ line) (indentation : Text) :
    '\n' ∉ indentLine (margin indentation) line := by
  unfold indentLine
  -- An empty line has no characters at all.
  split
  · simp
  · intro member
    -- The line has none, and a margin has nothing but spaces and tabs.
    rcases List.mem_append.mp member with margins | inside
    · simpa using space_or_tab_of_mem_margin margins
    · exact single inside

/-- A line that is indented twice stands behind both margins, the later one first. -/
theorem indentLine_indentLine (outer inner line : Text) :
    indentLine outer (indentLine inner line) = indentLine (outer ++ inner) line := by
  by_cases empty : line = []
  · simp [indentLine, empty]
  · -- A line that is not empty does not become empty behind a margin.
    simp [indentLine, empty]

/-- The line breaks of an indented text are those of the text. -/
theorem pieces_indent (t indentation : Text) (continuesText : Bool) :
    Text.pieces '\n' (indent t indentation continuesText)
      = (if continuesText then (Text.pieces '\n' t).1
          else indentLine (margin indentation) (Text.pieces '\n' t).1,
        (Text.pieces '\n' t).2.map (indentLine (margin indentation))) := by
  -- Neither a margin nor a line brings in a line break.
  obtain ⟨single, singles⟩ := Text.notMem_pieces '\n' t
  apply Text.pieces_join
  · split
    · exact single
    · exact notMem_indentLine single indentation
  · intro piece member
    obtain ⟨line, inside, rfl⟩ := List.mem_map.mp member
    exact notMem_indentLine (singles line inside) indentation

/-- To indent a text twice is to indent it once, by both indentations. -/
theorem indent_indent (t inner outer : Text) (continuesText : Bool) :
    indent (indent t inner continuesText) outer continuesText
      = indent t (outer ++ inner) continuesText := by
  -- Each line gets the two margins one after the other, or the first line gets neither.
  have others : ∀ lines : List Text,
      (lines.map (indentLine (margin inner))).map (indentLine (margin outer))
        = lines.map (indentLine (margin (outer ++ inner))) := by
    intro lines
    simp [indentLine_indentLine, margin_append]
  -- The lines of what was indented once are the indented lines.
  rw [indent, pieces_indent]
  cases continuesText with
  | true => simp [indent, others]
  | false => simp [indent, others, indentLine_indentLine, margin_append]

/-- A line, and what may become of it when it is indented. -/
structure Behind (line line' : Text) : Prop where
  /-- Nothing but spaces and tabs is put before the line. -/
  margin : ∃ added, line' = added ++ line ∧ ∀ c ∈ added, c = ' ' ∨ c = '\t'
  /-- Nothing at all is put before an empty line. -/
  empty : line = [] → line' = []

/-- A line may stay as it is. -/
theorem behind_refl (line : Text) : Behind line line where
  margin := ⟨[], by simp⟩
  empty := id

/-- An indented line is the line behind a margin. -/
theorem behind_indentLine (indentation line : Text) :
    Behind line (indentLine (margin indentation) line) := by
  -- An empty line is left alone.
  by_cases empty : line = []
  · simpa [indentLine, empty] using behind_refl []
  · -- What is added is the margin.
    refine ⟨⟨margin indentation, by simp [indentLine, empty], ?_⟩, fun none => absurd none empty⟩
    intro c member
    exact space_or_tab_of_mem_margin member

/-- Each line of an indented text is that line of the text behind a margin, if behind anything. -/
theorem lines_indent (t indentation : Text) (continuesText : Bool) :
    List.Forall₂ Behind (Text.lines t) (Text.lines (indent t indentation continuesText)) := by
  -- The line breaks stay, so that the lines can be compared one by one.
  rw [Text.lines, Text.lines, pieces_indent]
  apply List.Forall₂.cons
  · -- The first line stays as it is behind text.
    split
    · exact behind_refl _
    · exact behind_indentLine indentation _
  · rw [List.forall₂_map_right_iff, List.forall₂_same]
    intro line _
    exact behind_indentLine indentation line

/--
The indentations of templates that are included in each other add up.

An indented text has as many lines as the text, each of them the line behind spaces and tabs, and an
empty line stays empty.
-/
theorem indentations_add_up (t inner outer : Text) (continuesText : Bool) :
    indent (indent t inner continuesText) outer continuesText
        = indent t (outer ++ inner) continuesText
      ∧ (Text.lines (indent t inner continuesText)).length = (Text.lines t).length
      ∧ List.Forall₂ Behind (Text.lines t) (Text.lines (indent t inner continuesText)) := by
  -- Each line has one line of the indented text for itself.
  have lines := lines_indent t inner continuesText
  exact ⟨indent_indent t inner outer continuesText, lines.length_eq.symm, lines⟩

/-- Of an indentation only the spaces and tabs count, and empty lines stay empty. -/
example : indent ['a', '\n', '\n', 'b'] ['-', ' ', '\t'] true
    = ['a', '\n', '\n', ' ', '\t', 'b'] := by
  decide

end Mustache.Indentation
