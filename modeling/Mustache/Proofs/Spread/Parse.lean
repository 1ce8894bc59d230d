import Mustache.Proofs.Margins
import Mustache.Proofs.Spread.Reading
import Mustache.Proofs.Visible

/-!
Parsing a text whose lines get a margin.

Its tree is that of the text without margins up to blanks, with margins in the bodies of tags.
-/

namespace Mustache

open Text (spread)

mutual

/-- A token without offsets, with margins in the bodies of tags. -/
def Token.spread (margin : Text) : Token → Token
  | .text value span => .text value span
  | .variable escaped path _ => .variable escaped (Text.spread margin path) ⟨0, 0⟩
  | .comment value _ => .comment (Text.spread margin value) ⟨0, 0⟩
  | .switch value _ => .switch (Text.spread margin value) ⟨0, 0⟩
  | .inclusion name _ line => .inclusion (Text.spread margin name) ⟨0, 0⟩ line
  | .block inverted name _ children _ =>
    .block inverted (Text.spread margin name) ⟨0, 0⟩ (spreadAll margin children) 0

/-- Tokens without offsets, with margins in the bodies of tags. -/
def Token.spreadAll (margin : Text) : List Token → List Token
  | [] => []
  | token :: tokens => token.spread margin :: spreadAll margin tokens

end

/--
What stays the same of a tree when the lines of its source get a margin, but in the bodies of tags.

The blanks of texts are left out, and so are offsets and what stands before references.
-/
def Token.outline (margin : Text) (tokens : List Token) : List Token :=
  spreadAll margin (visibleAll (unlinedAll tokens))

/-- An element without offsets, with margins in the bodies of tags. -/
def Flat.spread (margin : Text) : Flat → Flat
  | .leaf token => .leaf (token.spread margin)
  | .opening inverted name _ => .opening inverted (Text.spread margin name) ⟨0, 0⟩
  | .closing name _ => .closing (Text.spread margin name) 0

mutual

/-- The elements of a token with margins in the bodies of tags. -/
theorem Token.flatten_spread (margin : Text) (token : Token) :
    (token.spread margin).flatten = token.flatten.map (Flat.spread margin) := by
  match token with
  | .text _ _ | .variable _ _ _ | .comment _ _ | .switch _ _ | .inclusion _ _ _ => rfl
  | .block _ _ _ children _ =>
    -- The opening and the closing tag have the same name.
    simp [spread, flatten, Flat.spread, Token.flattenAll_spreadAll margin children]

/-- The elements of a row of tokens with margins in the bodies of tags. -/
theorem Token.flattenAll_spreadAll (margin : Text) (tokens : List Token) :
    flattenAll (spreadAll margin tokens) = (flattenAll tokens).map (Flat.spread margin) := by
  -- The elements of a row are those of its tokens one after the other.
  match tokens with
  | [] => rfl
  | token :: tokens =>
    rw [spreadAll, flattenAll, flattenAll, List.map_append, Token.flatten_spread margin token,
      Token.flattenAll_spreadAll margin tokens]

end

/-- The element of what is left of a piece without blanks and offsets. -/
def Flat.ofShown : Char ⊕ Sigil × Text → Flat
  | .inl c => .leaf (.text [c] ⟨0, 0⟩)
  | .inr (sigil, body) => (⟨sigil, body, 0, 0⟩ : Tag).toFlat {}

/-- What is left of a piece is left of its element. -/
theorem Piece.map_visible? (margin : Text) (piece : Piece) :
    piece.visible?.map (Flat.spread margin) = (piece.spread? margin).map Flat.ofShown := by
  -- A blank shows nothing, and any other character shows itself.
  cases piece with
  | char c offset =>
    rw [spread?]
    by_cases blank : Text.isBlank c = true
    · rw [if_pos blank, visible?, element, Flat.visible?_blank (by simp [blank])]
      rfl
    · have shows : [c].filter (!Text.isBlank ·) = [c] := by simp [blank]
      rw [if_neg blank, visible?, element, Flat.visible?_text (by simp [shows]), shows]
      rfl
  | tag t =>
    -- Each sigil has an element of another kind.
    obtain ⟨sigil, body, start, stop⟩ := t
    cases sigil <;> rfl

/-- The outline of a parsed tree is that of its pieces. -/
theorem Template.flattenAll_outline {source : Text} {pair : Delimiters} {tokens : List Token}
    (parsed : parse source pair = .ok tokens) (margin : Text) :
    ∃ pieces, Reads pair 0 source ⟨pieces, none⟩
      ∧ Token.flattenAll (Token.outline margin tokens)
        = Flat.merge ((pieces.filterMap (Piece.spread? margin)).map Flat.ofShown) := by
  obtain ⟨pieces, reads, whole⟩ := flattenAll_visible_of_parse parsed
  refine ⟨pieces, reads, ?_⟩
  -- Margins make no text of what is none.
  have noText : ∀ flat : Flat, flat.isText = false → (flat.spread margin).isText = false := by
    rintro (token | _ | _) noText
    · cases token <;> first | rfl | cases noText
    · rfl
    · rfl
  -- Texts may be written as one before or after the bodies of tags get their margins.
  rw [Token.outline, Token.flattenAll_spreadAll, whole, ← Flat.merge_map (fun _ _ => rfl) noText,
    List.map_filterMap, List.map_filterMap]
  simp only [Piece.map_visible?]

/-- Tags are balanced as those with the same sigils are whose bodies are changed all in one way. -/
theorem Balanced.of_map {tags tags' : List Tag} (balanced : Balanced tags) (change : Text → Text)
    (same : tags'.map (fun tag => (tag.sigil, tag.body))
      = tags.map fun tag => (tag.sigil, change tag.body)) : Balanced tags' := by
  -- The induction is on the first row of tags, and the second row is divided in the same way.
  induction balanced generalizing tags' with
  | nil =>
    obtain rfl := List.map_eq_nil_iff.mp same
    exact .nil
  | other opensNone closesNone _ ih =>
    obtain ⟨tag', later', rfl, first, others⟩ := List.map_eq_cons_iff.mp same
    obtain ⟨sigil, -⟩ := Prod.mk.inj first
    rw [← sigil] at opensNone closesNone
    exact .other opensNone closesNone (ih others)
  | block opens closes named _ _ ih ih' =>
    rw [List.map_cons, List.map_append, List.map_cons] at same
    obtain ⟨opened', rest, rfl, first, behind⟩ := List.map_eq_cons_iff.mp same
    obtain ⟨inside', rest', rfl, within, behind'⟩ := List.map_eq_append_iff.mp behind
    obtain ⟨closed', later', rfl, last, others⟩ := List.map_eq_cons_iff.mp behind'
    obtain ⟨sigil, body⟩ := Prod.mk.inj first
    obtain ⟨sigil', body'⟩ := Prod.mk.inj last
    -- The names of both tags are changed in the same way.
    refine .block (sigil ▸ opens) (sigil' ▸ closes) ?_ (ih within) (ih' others)
    rw [body, body', named]

/-- The tags of some pieces are those of what is left of the pieces without blanks and offsets. -/
theorem Piece.map_tags (margin : Text) (pieces : List Piece) :
    (tags pieces).map (fun tag => (tag.sigil, Text.spread margin tag.body))
      = (pieces.filterMap (spread? margin)).filterMap Sum.getRight? := by
  rw [tags, List.map_filterMap, List.filterMap_filterMap]
  congr 1
  funext piece
  cases piece with
  | char c offset =>
    -- A character is no tag, whether or not it is a blank.
    by_cases blank : Text.isBlank c = true <;> simp [tag?, spread?, blank]
  | tag t => rfl

/-- A template is one with margins, and its tree is the same up to blanks and the bodies of tags. -/
theorem Template.parse_spread {margin : Text} (blank : margin.Blank) {pair : Delimiters}
    (solid : pair.Solid) {source : Text} {tokens : List Token}
    (parsed : parse source pair = .ok tokens) {lead : Text} (lead_blank : lead.Blank) :
    ∃ tokens', parse (lead ++ spread margin source) pair = .ok tokens'
      ∧ Token.outline [] tokens' = Token.outline margin tokens := by
  obtain ⟨pieces, reads, whole⟩ := flattenAll_outline parsed margin
  -- The text with margins reads as pieces with margins.
  obtain ⟨pieces', reads', same⟩ := reads.margins blank rfl solid lead_blank 0
  have sound : fault? source pair = none := (parse_eq_ok parsed).1
  obtain ⟨_, reads'', balanced⟩ := fault?_eq_none_iff.mp sound
  cases (reads_iff.mp reads'').trans (reads_iff.mp reads).symm
  -- No tag opens or closes anything else than before, since names get the same margins.
  have balanced' : Balanced (Piece.tags pieces') := by
    have shown := Piece.map_tags [] pieces'
    simp only [Text.spread_nil] at shown
    exact balanced.of_map (Text.spread margin) (by rw [shown, Piece.map_tags, same])
  have sound' := fault?_eq_none_iff.mpr ⟨pieces', reads', balanced'⟩
  have parsed' : parse (lead ++ spread margin source) pair
      = .ok (Template.tokens (lead ++ spread margin source) pair) := by
    rw [parse, sound']
  -- A tree is known by its elements.
  refine ⟨_, parsed', Token.flattenAll_injective ?_⟩
  obtain ⟨_, reads'', whole'⟩ := flattenAll_outline parsed' []
  cases (reads_iff.mp reads'').trans (reads_iff.mp reads').symm
  rw [whole, whole', same]

namespace Indentation

/-- An indentation is blank where it is put before lines. -/
theorem blank_margin (indentation : Text) : (margin indentation).Blank := by
  intro c member
  -- Only spaces and tabs are left of it.
  rcases space_or_tab_of_mem_margin member with rfl | rfl <;> decide

/-- The first line of a text is empty where a line break or the end comes first. -/
theorem indentLine_first (margin t : Text) :
    indentLine margin (Text.pieces '\n' t).1
      = Text.gap margin ['\n'] t ++ (Text.pieces '\n' t).1 := by
  -- Whether the line is empty is seen from the first character of the text.
  cases t with
  | nil => rfl
  | cons c t =>
    by_cases breaks : c = '\n' <;> simp [Text.pieces, indentLine, Text.gap, breaks]

/-- To indent the lines of a text behind its first one is to put margins before them. -/
theorem join_indentLine (margin t : Text) :
    Text.join '\n' (Text.pieces '\n' t).1 ((Text.pieces '\n' t).2.map (indentLine margin))
      = spread margin t := by
  induction t with
  | nil => rfl
  | cons c t ih =>
    rw [spread]
    by_cases breaks : c = '\n'
    · subst breaks
      -- The line behind the break is indented, and so are those behind it.
      have split : Text.pieces '\n' ('\n' :: t)
          = ([], (Text.pieces '\n' t).1 :: (Text.pieces '\n' t).2) := by simp [Text.pieces]
      rw [split, List.map_cons, Text.join, List.flatMap_cons, List.nil_append, indentLine_first,
        ← ih, Text.join]
      simp only [List.cons_append, List.append_assoc]
    · -- The character is put in front of the line that goes on.
      have split : Text.pieces '\n' (c :: t)
          = (c :: (Text.pieces '\n' t).1, (Text.pieces '\n' t).2) := by simp [Text.pieces, breaks]
      have none : Text.gap margin [c] t = [] := by simp [Text.gap, breaks]
      rw [split, none, ← ih]
      rfl

/-- A text is indented by putting margins before its lines, the first one included if it is free. -/
theorem indent_eq (t indentation : Text) (continuesText : Bool) :
    indent t indentation continuesText
      = (if continuesText then [] else Text.gap (margin indentation) ['\n'] t)
        ++ spread (margin indentation) t := by
  rw [indent, ← join_indentLine]
  -- Only the margin in front of the first line depends on what the text continues.
  cases continuesText with
  | true => rfl
  | false =>
    dsimp only
    rw [if_neg Bool.false_ne_true, if_neg Bool.false_ne_true, indentLine_first, Text.join, Text.join,
      List.append_assoc]

end Indentation

/-- A template is one when it is indented, and its tree is the same but for blanks. -/
theorem Template.parse_indent {pair : Delimiters} (solid : pair.Solid) {source : Text}
    {tokens : List Token} (parsed : parse source pair = .ok tokens) (indentation : Text)
    (continuesText : Bool) :
    ∃ tokens', parse (Indentation.indent source indentation continuesText) pair = .ok tokens'
      ∧ Token.outline [] tokens' = Token.outline (Indentation.margin indentation) tokens := by
  -- An indented text is one with margins.
  have blank := Indentation.blank_margin indentation
  rw [Indentation.indent_eq]
  refine parse_spread blank solid parsed ?_
  -- The first line has a margin, too, if it has any.
  split
  · exact Text.blank_nil
  · exact Text.blank_gap blank

end Mustache
