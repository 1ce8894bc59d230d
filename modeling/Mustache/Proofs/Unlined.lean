import Mustache.Proofs.Standalone

/-!
Trees without what stands before references on their lines.

A tree is determined by its elements, and without lines these are the elements of single pieces.
-/

namespace Mustache

namespace Flat

mutual

/-- The elements of a token make this token again, behind its siblings. -/
theorem nestInside_flatten (token : Token) (frames : List Frame) (siblings : List Token)
    (rest : List Flat) :
    nestInside frames siblings (token.flatten ++ rest) = nestInside frames (token :: siblings) rest := by
  match token with
  | .text _ _ | .variable _ _ _ | .comment _ _ | .switch _ _ | .inclusion _ _ _ => rfl
  | .block inverted name span children closeStart =>
    -- The children are complete when the closing tag comes.
    rw [Token.flatten, List.append_assoc, List.cons_append, nestInside,
      nestInside_flattenAll children, List.append_nil, List.singleton_append, nestInside,
      List.reverse_reverse]

/-- The elements of a row of tokens make these tokens again, behind their siblings. -/
theorem nestInside_flattenAll (tokens : List Token) (frames : List Frame) (siblings : List Token)
    (rest : List Flat) :
    nestInside frames siblings (Token.flattenAll tokens ++ rest)
      = nestInside frames (tokens.reverse ++ siblings) rest := by
  match tokens with
  | [] => rfl
  | token :: tokens =>
    -- The first token is a sibling of the others.
    rw [Token.flattenAll, List.append_assoc, nestInside_flatten token, nestInside_flattenAll tokens,
      List.reverse_cons, List.append_assoc, List.singleton_append]

end

/-- The tree of the elements of a tree is this tree. -/
theorem nest_flattenAll (tokens : List Token) : nest (Token.flattenAll tokens) = tokens := by
  have whole := nestInside_flattenAll tokens [] [] []
  -- Nothing stands in front of the tokens or behind them.
  rw [List.append_nil, List.append_nil] at whole
  rw [nest, whole, nestInside, Frame.outermost, List.reverse_reverse]

end Flat

/-- Trees with the same elements are the same. -/
theorem Token.flattenAll_injective : Function.Injective flattenAll := by
  -- Both trees are made of these elements.
  intro tokens tokens' same
  rw [← Flat.nest_flattenAll tokens, same, Flat.nest_flattenAll]

mutual

/-- A token without what stands before references on their lines. -/
def Token.unlined : Token → Token
  | .inclusion name span _ => .inclusion name span {}
  | .block inverted name span children closeStart =>
    .block inverted name span (unlinedAll children) closeStart
  | token => token

/-- Tokens without what stands before references on their lines. -/
def Token.unlinedAll : List Token → List Token
  | [] => []
  | token :: tokens => token.unlined :: unlinedAll tokens

end

/-- An element without what stands before a reference on its line. -/
def Flat.unlined : Flat → Flat
  | .leaf token => .leaf token.unlined
  | flat => flat

mutual

/-- Lines are left out of the elements of a token one by one. -/
theorem Token.flatten_unlined (token : Token) :
    token.unlined.flatten = token.flatten.map Flat.unlined := by
  match token with
  | .text _ _ | .variable _ _ _ | .comment _ _ | .switch _ _ | .inclusion _ _ _ => rfl
  | .block inverted name span children closeStart =>
    -- The opening and the closing tag have no line.
    simp [unlined, flatten, Flat.unlined, Token.flattenAll_unlinedAll children]

/-- Lines are left out of the elements of a row of tokens one by one. -/
theorem Token.flattenAll_unlinedAll (tokens : List Token) :
    flattenAll (unlinedAll tokens) = (flattenAll tokens).map Flat.unlined := by
  -- The elements of a row are those of its tokens one after the other.
  match tokens with
  | [] => rfl
  | token :: tokens =>
    rw [unlinedAll, flattenAll, flattenAll, List.map_append, Token.flatten_unlined token,
      Token.flattenAll_unlinedAll tokens]

end

namespace Flat

/-- An element that is no text stays in front of the others. -/
theorem merge_cons {flat : Flat} (noText : flat.isText = false) (rest : List Flat) :
    merge (flat :: rest) = flat :: merge rest := by
  -- Only texts are written as one.
  rw [merge]
  rintro value span rfl
  cases noText

/-- Elements that do not begin with a text. -/
def NoTextFirst (flats : List Flat) : Prop := ∀ flat ∈ flats.head?, flat.isText = false

/-- Where there are no elements no text comes first. -/
theorem noTextFirst_nil : NoTextFirst [] := by
  intro flat member
  cases member

/-- Elements begin with no text after texts are written as one if they did not before. -/
theorem NoTextFirst.merge {flats : List Flat} (none : NoTextFirst flats) :
    NoTextFirst (merge flats) := by
  cases flats with
  | nil => exact none
  | cons flat rest =>
    -- The first element stays where it is.
    rw [merge_cons (none flat rfl)]
    exact none

/-- A text is put together with the text that comes next, or stays as it is in front of another element. -/
theorem merge_text_cases (value : Text) (span : Span) (rest : List Flat) :
    (∃ more later others, merge rest = .leaf (.text more later) :: others ∧ NoTextFirst others
        ∧ merge (.leaf (.text value span) :: rest)
          = .leaf (.text (value ++ more) ⟨span.start, later.stop⟩) :: others)
      ∨ NoTextFirst (merge rest)
        ∧ merge (.leaf (.text value span) :: rest) = .leaf (.text value span) :: merge rest := by
  rw [merge]
  split
  · next more later others same =>
    -- The element behind the next text is no text again.
    have chain := isChain_merge rest
    rw [same] at chain
    have apart : NoTextFirst others := fun flat first =>
      Bool.eq_false_iff.mpr fun text => (List.isChain_cons.mp chain).1 flat first ⟨rfl, text⟩
    exact .inl ⟨more, later, others, same, apart, rfl⟩
  · -- No text comes next, so that the two stay apart.
    next apart =>
    refine .inr ⟨fun flat first => Bool.eq_false_iff.mpr fun text => ?_, rfl⟩
    obtain ⟨more, later, rfl⟩ := eq_of_isText text
    obtain ⟨others, same⟩ := List.head?_eq_some_iff.mp first
    exact apart more later others same

/-- In front of elements that begin with no text, a text stays as it is. -/
theorem merge_text {rest : List Flat} (none : NoTextFirst (merge rest)) (value : Text) (span : Span) :
    merge (.leaf (.text value span) :: rest) = .leaf (.text value span) :: merge rest := by
  rcases merge_text_cases value span rest with ⟨more, later, others, same, -⟩ | ⟨-, apart⟩
  · -- The next element would be a text.
    rw [same] at none
    cases none _ rfl
  · exact apart

/-- Elements may be changed before or after texts are written as one if texts stay as they are. -/
theorem merge_map {change : Flat → Flat}
    (kept : ∀ value span, change (.leaf (.text value span)) = .leaf (.text value span))
    (noText : ∀ flat, flat.isText = false → (change flat).isText = false) (flats : List Flat) :
    merge (flats.map change) = (merge flats).map change := by
  -- The induction is on the elements; other ones stay in between as they were.
  induction flats with
  | nil => rfl
  | cons flat rest ih =>
    cases text : flat.isText with
    | false => rw [List.map_cons, merge_cons (noText flat text), merge_cons text, ih, List.map_cons]
    | true =>
      obtain ⟨value, span, rfl⟩ := eq_of_isText text
      rw [List.map_cons, kept]
      -- Whether the next element is a text does not depend on the change.
      rcases merge_text_cases value span rest with ⟨more, later, others, same, -, whole⟩ | ⟨none, whole⟩
      · rw [same, List.map_cons, kept] at ih
        rw [whole, merge, ih, List.map_cons, kept]
      · have none' : NoTextFirst (merge (rest.map change)) := by
          intro flat first
          rw [ih, List.head?_map] at first
          obtain ⟨flat', first', rfl⟩ := Option.map_eq_some_iff.mp first
          exact noText flat' (none flat' first')
        rw [whole, merge_text none', ih, List.map_cons, kept]

/-- Texts have no line. -/
theorem isText_unlined (flat : Flat) : flat.unlined.isText = flat.isText := by
  -- A token is of the same kind without its line.
  rcases flat with token | _ | _
  · cases token <;> rfl
  · rfl
  · rfl

/-- Lines may be left out before or after texts are written as one. -/
theorem merge_unlined (flats : List Flat) :
    merge (flats.map unlined) = (merge flats).map unlined :=
  -- Only what stands before references is left out, and these are no texts.
  merge_map (fun _ _ => rfl) (fun flat noText => (isText_unlined flat).trans noText) flats

end Flat

/-- The element of a piece that has nothing before it on its line. -/
def Piece.element : Piece → Flat
  | .char c offset => .leaf (.text [c] ⟨offset, offset + 1⟩)
  | .tag t => t.toFlat {}

/-- Without its line the element of a tag is the same everywhere. -/
theorem Tag.unlined_toFlat (tag : Tag) (before : LinePrefix) :
    (tag.toFlat before).unlined = tag.toFlat {} := by
  -- Only references have a line.
  obtain ⟨sigil, body, start, stop⟩ := tag
  cases sigil <;> rfl

/-- The element of a tag is no text. -/
theorem Tag.isText_toFlat (tag : Tag) (before : LinePrefix) :
    (tag.toFlat before).isText = false := by
  -- Each sigil has an element of another kind.
  obtain ⟨sigil, body, start, stop⟩ := tag
  cases sigil <;> rfl

namespace Piece

/-- Without their lines the elements of a line are those of its tags, and of its characters if kept. -/
theorem unlined_lineFlats (keepsText : Bool) (before : LinePrefix) (line : List Piece) :
    (lineFlats keepsText before line).map Flat.unlined
      = (line.filter fun piece => keepsText || piece.isTag).map element := by
  -- The induction is on the line, of which each tag has its element.
  induction line generalizing before with
  | nil => rfl
  | cons piece line ih =>
    cases piece with
    | char c offset =>
      -- A character is kept with the text of its line.
      cases keepsText with
      | true => rw [lineFlats, if_pos rfl, List.map_cons, ih]; rfl
      | false => rw [lineFlats, if_neg (by simp), ih]; rfl
    | tag t =>
      rw [lineFlats, List.map_cons, Tag.unlined_toFlat, ih, List.filter_cons_of_pos (by simp [isTag])]
      rfl

/-- Without their lines all elements are those of the pieces that standalone lines leave. -/
theorem unlined_flats (pieces : List Piece) :
    (flats pieces).map Flat.unlined
      = ((lines pieces).flatMap fun line =>
          line.filter fun piece => !standalone line || piece.isTag).map element := by
  -- Each line contributes its own elements.
  rw [flats, List.map_flatMap, List.map_flatMap]
  exact List.flatMap_congr fun line _ => unlined_lineFlats ..

end Piece

/-- The elements of a parsed tree are those of the only reading, in which nothing is wrong. -/
theorem Template.flattenAll_of_parse {source : Text} {pair : Delimiters} {tokens : List Token}
    (parsed : parse source pair = .ok tokens) :
    ∃ pieces, Reads pair 0 source ⟨pieces, none⟩ ∧ Balanced (Piece.tags pieces)
      ∧ Token.flattenAll tokens = Flat.merge (Piece.flats pieces) := by
  obtain ⟨sound, rfl⟩ := parse_eq_ok parsed
  obtain ⟨complete, matched⟩ := complete_of_fault? sound
  have reads : Reads pair 0 source _ := reads_iff.mpr rfl
  -- The elements lie in the source, and so their tags match.
  have laid := (reads.tiles complete (Nat.zero_le _) rfl matched).laid
  refine ⟨(Reading.ofSource source pair).pieces, ?_, (Piece.openAfter_eq_ok_iff.mp matched).balanced,
    Flat.flattenAll_nest laid.merge.matched⟩
  -- The reading comes to the end.
  rwa [← complete]

end Mustache
