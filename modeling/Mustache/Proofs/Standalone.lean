import Mathlib.Data.List.Basic
import Mathlib.Data.List.Chain
import Mustache.Proofs.Layout
import Mustache.Proofs.Lines

/-!
Which characters of a template are text of its token tree: all outside tags, except those of
standalone lines, each once and in order.
-/

namespace Mustache

/-- The characters of a text that starts at an offset, each with its own. -/
def Text.placed (start : Int) : Text → List (Char × Int)
  | [] => []
  | c :: rest => (c, start) :: placed (start + 1) rest

mutual

/-- The characters of the texts in a token in reading order, each with its offset. -/
def Token.characters : Token → List (Char × Int)
  | .text value span => Text.placed span.start value
  | .block _ _ _ children _ => charactersAll children
  | _ => []

/-- The characters of the texts in a row of tokens. -/
def Token.charactersAll : List Token → List (Char × Int)
  | [] => []
  | token :: tokens => token.characters ++ charactersAll tokens

end

/-- The characters of an element. -/
def Flat.characters : Flat → List (Char × Int)
  | .leaf token => token.characters
  | _ => []

/-- The characters of two texts side by side are those of both together. -/
theorem Text.placed_append (start : Int) (left right : Text) :
    placed start (left ++ right) = placed start left ++ placed (start + left.length) right := by
  -- Each character of the first text moves the second one on.
  induction left generalizing start with
  | nil => simp [placed]
  | cons c left ih =>
    simp only [List.cons_append, placed, ih, List.length_cons]
    congr 3
    omega

mutual

/-- The characters of a token are those of its elements. -/
theorem Token.characters_eq (token : Token) :
    token.flatten.flatMap Flat.characters = token.characters := by
  match token with
  | .text _ _ => simp [flatten, Flat.characters]
  | .variable _ _ _ => simp [flatten, Flat.characters]
  | .comment _ _ => simp [flatten, Flat.characters]
  | .switch _ _ => simp [flatten, Flat.characters]
  | .inclusion _ _ _ => simp [flatten, Flat.characters]
  | .block _ _ _ children _ =>
    -- The opening and the closing tag have none.
    have inside := Token.charactersAll_eq children
    simp [flatten, Flat.characters, characters, inside]

/-- The characters of a row of tokens are those of its elements. -/
theorem Token.charactersAll_eq (tokens : List Token) :
    (flattenAll tokens).flatMap Flat.characters = charactersAll tokens := by
  -- A section has its own characters between its tags.
  match tokens with
  | [] => rfl
  | token :: tokens =>
    rw [flattenAll, List.flatMap_append, Token.characters_eq token,
      Token.charactersAll_eq tokens, charactersAll]

end

/-- A tag has no characters of text. -/
theorem Tag.characters_toFlat (tag : Tag) (before : LinePrefix) :
    (tag.toFlat before).characters = [] := by
  -- No sigil stands for a text or for a section with children.
  obtain ⟨sigil, body, start, stop⟩ := tag
  cases sigil <;> simp [toFlat, Flat.characters, Token.characters]

/-- A slice of a source is as long as its offsets are apart. -/
theorem Text.length_slice {source : Text} {start stop : Nat} (ordered : start ≤ stop)
    (inside : stop ≤ source.length) : (slice source start stop).length = stop - start := by
  -- Nothing is cut off outside the source.
  rw [slice_ofNat source ordered inside, List.length_drop, List.length_take]
  omega

/-- Writing neighbouring texts as one keeps all characters and their offsets. -/
theorem Laid.characters_merge {source : Text} {pair : Delimiters} {names : List Text}
    {start : Nat} {flats : List Flat} (laid : Laid source pair names start flats) :
    (Flat.merge flats).flatMap Flat.characters = flats.flatMap Flat.characters := by
  -- The induction follows the pieces; a tag divides the texts and stays where it is.
  induction laid with
  | nil => rfl
  | @text _ _ start stop value rest ordered inside shows later ih =>
    have merged := later.merge
    rw [Flat.merge]
    split
    · rename_i more span others same
      rw [same] at ih merged
      rw [List.flatMap_cons] at ih ⊢
      rw [List.flatMap_cons, ← ih, ← List.append_assoc]
      congr 1
      -- The next text starts where this one stops.
      have place : span.start = start + value.length := by
        have length := Text.length_slice (Nat.le_of_lt ordered) inside
        rw [← shows] at length
        cases merged with
        | text => simp only; omega
        | tag _ _ _ _ _ element _ _ _ _ => exact (Tag.toFlat_ne_text _ _ _ _ element).elim
      simp only [Flat.characters, Token.characters, Text.placed_append, place]
    · rw [List.flatMap_cons, List.flatMap_cons, ih]
  | @tag _ _ _ _ _ _ tag before flat rest _ _ _ _ _ element _ _ _ _ ih =>
    subst element
    rw [Flat.merge_toFlat, List.flatMap_cons, List.flatMap_cons, ih]

/-- The characters of a line are those of its pieces, or none if its text is not kept. -/
theorem Piece.characters_lineFlats (keepsText : Bool) (before : LinePrefix) (line : List Piece) :
    (lineFlats keepsText before line).flatMap Flat.characters
      = if keepsText then line.filterMap character? else [] := by
  -- Each piece is looked at by itself.
  induction line generalizing before with
  | nil => cases keepsText <;> rfl
  | cons piece line ih =>
    cases piece with
    | char c offset =>
      cases keepsText <;>
        simp [lineFlats, ih, Flat.characters, Token.characters, Text.placed, character?]
    -- A tag has no characters of its own, whether the text is kept or not.
    | tag t =>
      cases keepsText <;>
        simp [lineFlats, ih, Tag.characters_toFlat, character?, List.filterMap_cons]

/-- The characters of a row of pieces are those of the lines that are not standalone. -/
theorem Piece.characters_flats (pieces : List Piece) :
    (flats pieces).flatMap Flat.characters
      = (lines pieces).flatMap fun line =>
        if standalone line then [] else line.filterMap character? := by
  -- Each line contributes its own elements.
  rw [flats, List.flatMap_assoc]
  refine List.flatMap_congr fun line _ => ?_
  rw [characters_lineFlats]
  cases standalone line <;> rfl

/-- The pieces of a row are those at its places. -/
theorem filterMap_places {α β : Type} (f : α → Option β) (row : List α) :
    (List.range row.length).filterMap (fun i => row[i]?.bind f) = row.filterMap f := by
  -- The places behind the first one are those of the rest of the row.
  induction row with
  | nil => rfl
  | cons a row ih =>
    rw [List.length_cons, List.range_succ_eq_map, List.filterMap_cons, List.filterMap_map,
      List.filterMap_cons, ← ih]
    rfl

open Classical in
/-- The characters of the lines that are not standalone are those at places not stripped. -/
theorem Piece.characters_lines (pieces : List Piece) :
    ((lines pieces).flatMap fun line => if standalone line then [] else line.filterMap character?)
      = (List.range pieces.length).filterMap fun i =>
        if Stripped pieces i then none else pieces[i]?.bind character? := by
  -- The induction is on the number of pieces: the first line is taken off.
  induction length : pieces.length using Nat.strongRecOn generalizing pieces with
  | ind n ih =>
    subst length
    rcases lines_cases pieces with rfl | ⟨front, later, rfl, split, first⟩
    · rfl
    have shorter : later.length < (front ++ later).length := by
      have := List.length_pos_iff.mpr first.nonempty
      rw [List.length_append]
      omega
    rw [split, List.flatMap_cons, ih _ shorter later rfl, List.length_append, List.range_add,
      List.filterMap_append, List.filterMap_map]
    congr 1
    · -- The places in the first line are all stripped or all kept.
      have place : ∀ i ∈ List.range front.length,
          (if standalone front = true then none else front[i]?.bind character?)
            = if Stripped (front ++ later) i then none else (front ++ later)[i]?.bind character? := by
        intro i member
        have inside := List.mem_range.mp member
        simp only [first.stripped_iff inside, List.getElem?_append_left inside]
      rw [← List.filterMap_congr place, ← filterMap_places character? front]
      cases standalone front with
      | true => exact (List.filterMap_eq_nil_iff.mpr fun _ _ => rfl).symm
      | false => rfl
    · refine List.filterMap_congr fun i member => ?_
      have inside := List.mem_range.mp member
      simp only [Function.comp, first.stripped_later_iff inside]
      rw [List.getElem?_append_right (Nat.le_add_right ..), Nat.add_sub_cancel_left]

/-- A row of siblings in a tree of tokens: those of the tree itself, or the children of a section. -/
inductive Token.Siblings (tree : List Token) : List Token → Prop
  /-- The tokens that are in no section. -/
  | top : Siblings tree tree
  /-- The tokens in a section of another row. -/
  | inside {row children : List Token} {inverted : Bool} {name : Text} {span : Span}
      {closeStart : Int} (outer : Siblings tree row)
      (member : .block inverted name span children closeStart ∈ row) : Siblings tree children

/-- The elements of siblings stand side by side among those of the tree. -/
theorem Token.Siblings.flattenAll_within {tree row : List Token} (siblings : Siblings tree row) :
    flattenAll row <:+: flattenAll tree := by
  induction siblings with
  | top => exact List.infix_rfl
  | @inside _ children inverted name span closeStart _ member ih =>
    -- The children stand between the opening and the closing tag.
    obtain ⟨before, after, rfl⟩ := List.append_of_mem member
    refine List.IsInfix.trans ?_ ih
    rw [flattenAll_append, flattenAll, flatten]
    exact ⟨flattenAll before ++ [.opening inverted name span],
      .closing name closeStart :: flattenAll after, by simp⟩

/-- Whether an element is a text. -/
def Flat.isText : Flat → Bool
  | .leaf (.text _ _) => true
  | _ => false

/-- An element that is a text has a value and offsets. -/
theorem Flat.eq_of_isText {flat : Flat} (text : flat.isText = true) :
    ∃ value span, flat = .leaf (.text value span) := by
  -- No other element is one.
  unfold isText at text
  split at text
  · exact ⟨_, _, rfl⟩
  · cases text

/-- Of two elements side by side at most one is a text, when neighbouring texts are written as one. -/
theorem Flat.isChain_merge (flats : List Flat) :
    (merge flats).IsChain fun left right => ¬ (left.isText = true ∧ right.isText = true) := by
  induction flats with
  | nil => exact .nil
  | cons flat rest ih =>
    by_cases text : flat.isText = true
    · obtain ⟨value, span, rfl⟩ := eq_of_isText text
      rw [merge]
      split
      · -- A text in front of a text takes the place of it.
        rename_i same
        rw [same] at ih
        exact List.isChain_cons.mpr ⟨(List.isChain_cons.mp ih).1, (List.isChain_cons.mp ih).2⟩
      · rename_i others apart
        refine List.isChain_cons.mpr ⟨fun next first both => ?_, ih⟩
        -- The next element was seen not to be a text.
        obtain ⟨more, later, rfl⟩ := eq_of_isText both.2
        obtain ⟨behind, same⟩ := List.head?_eq_some_iff.mp first
        exact apart more later behind same
    · have kept : merge (flat :: rest) = flat :: merge rest := by
        rw [merge]
        rintro value span rfl
        exact text rfl
      rw [kept]
      exact List.isChain_cons.mpr ⟨fun _ _ both => text both.1, ih⟩

/-- A text that lies in a source has at least one character. -/
theorem Laid.text_ne_nil {source : Text} {pair : Delimiters} {names : List Text} {start : Nat}
    {flats : List Flat} (laid : Laid source pair names start flats) {value : Text} {span : Span}
    (member : .leaf (.text value span) ∈ flats) : value ≠ [] := by
  -- The induction follows the layout, whose tags are no texts.
  induction laid with
  | nil => cases member
  | @text _ _ start stop value' rest ordered inside shows _ ih =>
    rcases List.mem_cons.mp member with same | later
    · -- It takes up as many characters as its offsets are apart.
      cases same
      have length := Text.length_slice (Nat.le_of_lt ordered) inside
      rw [← shows] at length
      exact List.ne_nil_of_length_pos (by omega)
    · exact ih later
  | tag _ _ _ _ _ element _ _ _ _ ih =>
    rcases List.mem_cons.mp member with same | later
    · exact (Tag.toFlat_ne_text _ _ _ _ (element.trans same.symm)).elim
    · exact ih later

/-- Texts are maximal: in no row of siblings one is empty or next to another one. -/
def Token.TextsMaximal (tree : List Token) : Prop :=
  ∀ row, Siblings tree row → (∀ span, .text [] span ∉ row)
    ∧ ∀ before after value value' span span',
      row ≠ before ++ .text value span :: .text value' span' :: after

/-- Where the elements of a tree are merged ones that lie in a source, its texts are maximal. -/
theorem Token.textsMaximal_of_laid {source : Text} {pair : Delimiters} {names : List Text}
    {start : Nat} {flats : List Flat} {tree : List Token}
    (laid : Laid source pair names start (Flat.merge flats))
    (whole : flattenAll tree = Flat.merge flats) : TextsMaximal tree := by
  intro row siblings
  have part := siblings.flattenAll_within
  rw [whole] at part
  constructor
  · intro span member
    -- The text would be one of the elements.
    obtain ⟨before, after, rfl⟩ := List.append_of_mem member
    have element : .leaf (.text [] span) ∈ Flat.merge flats :=
      part.subset (by simp [flattenAll_append, flattenAll, flatten])
    exact laid.text_ne_nil element rfl
  · rintro before after value value' span span' rfl
    -- The two texts would be elements side by side.
    obtain ⟨front, back, split⟩ := part
    have chain := Flat.isChain_merge flats
    rw [← split, flattenAll_append] at chain
    have two := chain.left_of_append.right_of_append.right_of_append
    exact (List.isChain_cons.mp two).1 _ rfl ⟨rfl, rfl⟩

/--
A character outside tags is missing from the token tree exactly when it is stripped with its line.

All others are there once and in order, with their offsets, and the texts are maximal.
-/
theorem Template.characters_of_parse {source : Text} {pair : Delimiters} {tokens : List Token}
    (parsed : parse source pair = .ok tokens) :
    ∃ (pieces : List Piece) (kept : List Nat),
      (∀ reading, Reads pair 0 source reading ↔ reading = ⟨pieces, none⟩)
        ∧ kept.Pairwise (· < ·)
        ∧ (∀ i, i ∈ kept ↔ ∃ c offset, pieces[i]? = some (.char c offset)
            ∧ ¬ Piece.Stripped pieces i)
        ∧ Token.charactersAll tokens = kept.filterMap (fun i => pieces[i]?.bind Piece.character?)
        ∧ Token.TextsMaximal tokens := by
  obtain ⟨sound, rfl⟩ := parse_eq_ok parsed
  obtain ⟨complete, matched⟩ := complete_of_fault? sound
  have reads : Reads pair 0 source _ := reads_iff.mpr rfl
  have laid := (reads.tiles complete (Nat.zero_le _) rfl matched).laid
  have whole := Flat.flattenAll_nest laid.merge.matched
  generalize reading_eq : Reading.ofSource source pair = reading at *
  obtain ⟨pieces, fault⟩ := reading
  obtain rfl : fault = none := complete
  rw [Template.tokens, reading_eq]
  classical
  -- The places that stay are decided one by one.
  let stays : Nat → Bool := fun i =>
    decide (∃ c offset, pieces[i]? = some (.char c offset) ∧ ¬ Piece.Stripped pieces i)
  refine ⟨pieces, (List.range pieces.length).filter stays, fun reading => ?_, ?_, fun i => ?_, ?_,
    Token.textsMaximal_of_laid laid.merge whole⟩
  · rw [reads_iff, reading_eq]
  · exact List.pairwise_lt_range.filter _
  · simp only [List.mem_filter, List.mem_range, stays, decide_eq_true_eq, and_iff_right_iff_imp]
    rintro ⟨c, offset, stands, -⟩
    exact (List.getElem?_eq_some_iff.mp stands).1
  · -- The characters are those of the lines that are not standalone.
    rw [← Token.charactersAll_eq, whole, laid.characters_merge, Piece.characters_flats,
      Piece.characters_lines, List.filterMap_filter]
    refine List.filterMap_congr fun i _ => ?_
    by_cases stripped : Piece.Stripped pieces i
    · have leaves : stays i = false := by simp [stays, stripped]
      simp [stripped, leaves]
    · -- Of the other pieces the tags have no character.
      rw [if_neg stripped]
      cases found : pieces[i]? with
      | none => simp
      | some piece =>
        cases piece with
        | tag t => simp [Piece.character?]
        | char c offset =>
          have remains : stays i = true := by simp [stays, found, stripped]
          simp [remains]

/-- The blanks and the line break of a comment alone on its line are missing. -/
theorem Template.characters_of_parse_comment :
    let source : Text := "a\n \x7b\x7b!b\x7d\x7d \nc".toList
    parse source .default = .ok [.text ['a', '\n'] ⟨0, 2⟩, .comment ['b'] ⟨3, 9⟩,
        .text ['c'] ⟨11, 12⟩]
      ∧ ∃ kept : List Nat, [('a', 0), ('\n', 1), ('c', 11)]
          = kept.filterMap (fun i => (Reading.ofSource source .default).pieces[i]?.bind
              Piece.character?) := by
  have parsed : parse "a\n \x7b\x7b!b\x7d\x7d \nc".toList .default
      = .ok [.text ['a', '\n'] ⟨0, 2⟩, .comment ['b'] ⟨3, 9⟩, .text ['c'] ⟨11, 12⟩] := by
    decide +kernel
  -- The characters are those of the general statement, which are computed at the end.
  obtain ⟨pieces, kept, reads, -, -, characters, -⟩ := characters_of_parse parsed
  -- The pieces are those of the only reading.
  have same := (reads _).mp (reads_iff.mpr rfl)
  refine ⟨parsed, kept, ?_⟩
  rw [same, ← characters]
  rfl

end Mustache
