import Mustache.Proofs.Sections
import Mustache.Proofs.TagForm

/-! The pieces of a source stand side by side in it, from its start to its end. -/

namespace Mustache

namespace Text

/-- A text that stands at an offset is the slice from there on that has its length. -/
theorem slice_of_drop {source part rest : Text} {start : Nat} (inside : start ≤ source.length)
    (left : source.drop start = part ++ rest) :
    start + part.length ≤ source.length ∧ slice source start ↑(start + part.length) = part := by
  have lengths := congrArg List.length left
  rw [List.length_drop, List.length_append] at lengths
  have within : start + part.length ≤ source.length := by omega
  refine ⟨within, ?_⟩
  -- Cutting off what comes behind and what comes before may be done in either order.
  rw [slice_ofNat source (Nat.le_add_right ..) within, List.drop_take, left,
    Nat.add_sub_cancel_left, List.take_left]

/-- Two slices side by side are one slice. -/
theorem slice_append {source : Text} {start middle stop : Nat} (ordered : start ≤ middle)
    (ordered' : middle ≤ stop) (inside : stop ≤ source.length) :
    slice source start middle ++ slice source middle stop = slice source start stop := by
  rw [slice_ofNat source ordered (Nat.le_trans ordered' inside),
    slice_ofNat source ordered' inside, slice_ofNat source (Nat.le_trans ordered ordered') inside]
  -- The front of the longer slice is cut off at the same place.
  have front : source.take middle = (source.take stop).take middle := by
    rw [List.take_take, Nat.min_eq_left ordered']
  -- The place where they meet is not in front of the first one.
  have long : start ≤ ((source.take stop).take middle).length := by
    simp only [List.length_take]
    omega
  rw [front, ← List.drop_append_of_le_length long, List.take_append_drop]

/-- A slice between equal offsets is empty. -/
@[simp] theorem slice_self (source : Text) (offset : Int) : slice source offset offset = [] := by
  -- What is kept in front of an offset is dropped up to the same offset.
  rw [slice, List.drop_eq_nil_iff, List.length_take]
  exact Nat.min_le_left ..

/-- A slice of one character. -/
theorem slice_singleton {source : Text} {offset : Nat} {c : Char}
    (stands : source[offset]? = some c) : slice source offset ↑(offset + 1) = [c] := by
  obtain ⟨inside, rfl⟩ := List.getElem?_eq_some_iff.mp stands
  -- The character is the first one from the offset on.
  have left : source.drop offset = [source[offset]] ++ source.drop (offset + 1) :=
    List.drop_eq_getElem_cons inside
  exact (slice_of_drop (Nat.le_of_lt inside) left).2

end Text

/-- The full text of a tag stands between two offsets of a source. -/
structure TagAt (slack : Slack) (source : Text) (pair : Delimiters) (sigil : Sigil) (body : Text)
    (start stop : Nat) : Prop where
  /-- The tag takes up at least one character. -/
  ordered : start < stop
  /-- The tag does not go beyond the end. -/
  inside : stop ≤ source.length
  /-- What stands there has the form of the tag, in front of the rest of the source. -/
  form : TagForm slack pair sigil body (Text.slice source start stop) (source.drop stop)

/-- How a tag changes the names of the open sections, which go from the inside out. -/
inductive Sigil.Nests : Sigil → Text → List Text → List Text → Prop
  /-- A section is opened inside the others. -/
  | opens {sigil : Sigil} {name : Text} {names : List Text}
      (opens : sigil.opensSection = true) : Nests sigil name names (name :: names)
  /-- The innermost section is closed. -/
  | closes {name : Text} {names : List Text} : Nests .closer name (name :: names) names
  /-- No section is opened or closed. -/
  | other {sigil : Sigil} {name : Text} {names : List Text}
      (opensNone : sigil.opensSection = false) (closesNone : sigil ≠ .closer) :
      Nests sigil name names names

/--
Pieces that stand side by side in a source from an offset up to its end.

The delimiters and the names of the open sections are those at the offset.
-/
inductive Tiles (source : Text) : Delimiters → List Text → Nat → List Piece → Prop
  /-- No piece comes behind the end, where all sections are closed. -/
  | nil {pair : Delimiters} : Tiles source pair [] source.length []
  /-- A character stands at the offset. -/
  | char {pair : Delimiters} {names : List Text} {offset : Nat} {c : Char} {rest : List Piece}
      (stands : source[offset]? = some c) (later : Tiles source pair names (offset + 1) rest) :
      Tiles source pair names offset (.char c offset :: rest)
  /-- A tag stands at the offset. -/
  | tag {pair next : Delimiters} {names names' : List Text} {tag : Tag} {rest : List Piece}
      (stands : TagAt .blanks source pair tag.sigil tag.body tag.start tag.stop)
      (follows : pair.Follows tag.sigil tag.body next)
      (nests : tag.sigil.Nests tag.body names names')
      (later : Tiles source next names' tag.stop rest) :
      Tiles source pair names tag.start (.tag tag :: rest)

/-- Pieces side by side begin inside the source. -/
theorem Tiles.inside {source : Text} {pair : Delimiters} {names : List Text} {offset : Nat}
    {pieces : List Piece} (tiles : Tiles source pair names offset pieces) :
    offset ≤ source.length := by
  -- The first of them takes up a part of the source.
  cases tiles with
  | nil => exact Nat.le_refl _
  | char stands _ => exact Nat.le_of_lt (List.getElem?_eq_some_iff.mp stands).1
  | tag stands _ _ _ => exact Nat.le_trans (Nat.le_of_lt stands.ordered) stands.inside

/-- The characters of a text that stands at an offset come side by side. -/
theorem Tiles.ofText {source before later : Text} {pair : Delimiters} {names : List Text}
    {offset : Nat} {rest : List Piece} (left : source.drop offset = before ++ later)
    (tiles : Tiles source pair names (offset + before.length) rest) :
    Tiles source pair names offset (Piece.ofText offset before ++ rest) := by
  -- The induction is on the text, character by character.
  induction before generalizing offset with
  | nil => exact tiles
  | cons c before ih =>
    have here : source[offset]? = some c := by
      rw [← Nat.add_zero offset, ← List.getElem?_drop, left]
      rfl
    -- The other characters stand behind the first one.
    have behind : source.drop (offset + 1) = before ++ later := by
      rw [← List.drop_drop, left]
      rfl
    rw [List.length_cons, Nat.add_comm before.length, ← Nat.add_assoc] at tiles
    exact .char here (ih behind tiles)

/-- A tag has at least the characters of its opening delimiter. -/
theorem TagForm.length_pos {slack : Slack} {pair : Delimiters} {sigil : Sigil}
    {body written behind : Text} (form : TagForm slack pair sigil body written behind) :
    0 < written.length := by
  obtain ⟨_, _, _, _, parts⟩ := form
  -- The delimiter is not empty.
  have long := List.length_pos_iff.mpr pair.opening_ne_nil
  rw [parts.whole, List.length_append]
  omega

/-- Characters do not open or close sections. -/
theorem Piece.openAfter_ofText (stack : List Tag) (offset : Nat) (t : Text) (rest : List Piece) :
    openAfter stack (ofText offset t ++ rest) = openAfter stack rest := by
  -- Each character is passed over.
  induction t generalizing offset with
  | nil => rfl
  | cons c t ih => exact ih (offset + 1)

/-- Where the sections match to the end, each tag changes the open ones in one of three ways. -/
theorem Piece.nests_of_openAfter {stack left : List Tag} {tag : Tag} {rest : List Piece}
    (matched : openAfter stack (.tag tag :: rest) = .ok left) :
    ∃ stack', tag.sigil.Nests tag.body (stack.map Tag.body) (stack'.map Tag.body)
      ∧ openAfter stack' rest = .ok left := by
  cases opens : tag.sigil.opensSection with
  | true => exact ⟨tag :: stack, .opens opens, openAfter_opener opens ▸ matched⟩
  | false =>
    by_cases closes : tag.sigil = .closer
    · -- The tag has to name the innermost section.
      obtain ⟨innermost, outer, rfl, named, matched⟩ := openAfter_closer_ok closes matched
      exact ⟨outer, closes ▸ named ▸ .closes, matched⟩
    · -- Any other tag leaves the sections alone.
      exact ⟨stack, .other opens closes, openAfter_other opens closes ▸ matched⟩

/-- The pieces of a text that is read to the end of the source stand side by side. -/
theorem Reads.tiles {pair : Delimiters} {offset : Nat} {text : Text} {reading : Reading}
    (reads : Reads pair offset text reading) (complete : reading.fault = none) {source : Text}
    (inside : offset ≤ source.length) (left : source.drop offset = text) {stack : List Tag}
    (matched : Piece.openAfter stack reading.pieces = .ok []) :
    Tiles source pair (stack.map Tag.body) offset reading.pieces := by
  -- The induction follows the reading, with the text in front of each tag and the tag itself.
  induction reads generalizing stack with
  | @finished pair offset text absent =>
    rw [← List.append_nil (Piece.ofText offset text)] at matched ⊢
    rw [Piece.openAfter_ofText, Piece.openAfter, Except.ok.injEq] at matched
    subst matched
    have ended : offset + text.length = source.length := by
      rw [← left, List.length_drop]
      omega
    exact .ofText (left.trans (List.append_nil text).symm) (ended ▸ .nil)
  | unclosed _ _ => cases complete
  | invalid _ _ _ => cases complete
  | @tag pair next offset stop before later body rest sigil reading _ tag follows stops _ ih =>
    obtain ⟨written, rfl, form⟩ := tag.tagForm
    obtain ⟨within, -⟩ := Text.slice_of_drop inside left
    have behind : source.drop (offset + before.length) = written ++ rest := by
      rw [← List.drop_drop, left, List.drop_left]
    obtain ⟨within', slice⟩ := Text.slice_of_drop within behind
    -- The tag goes from the end of the text before it up to where the rest begins.
    obtain rfl : stop = offset + before.length + written.length := by
      simp only [List.length_append] at stops
      omega
    have after : source.drop (offset + before.length + written.length) = rest := by
      rw [← List.drop_drop, behind, List.drop_left]
    rw [Piece.openAfter_ofText] at matched
    obtain ⟨stack', nests, matched⟩ := Piece.nests_of_openAfter matched
    -- The tag is written in the source just where it was read.
    have stands : TagAt .blanks source pair sigil body (offset + before.length)
        (offset + before.length + written.length) := by
      refine ⟨Nat.lt_add_of_pos_right form.length_pos, within', ?_⟩
      rw [slice, after]
      exact form
    exact .ofText left (.tag stands follows nests (ih complete within' after matched))

end Mustache
