import Mustache.Proofs.FirstFault
import Mustache.Proofs.Moved
import Mustache.Proofs.Serving

/-!
The text inside a section is parsed by itself as the children of the section.

Only blanks of texts may differ, since a line can begin or end with the section.
-/

namespace Mustache

/-- The element of a piece that stands further on is moved, without blanks. -/
theorem Piece.visible?_moved (distance : Nat) (piece : Piece) :
    (piece.moved distance).visible? = piece.visible?.map (Flat.moved distance) := by
  cases piece with
  | char c offset =>
    -- Of a character only the text is left.
    by_cases blank : [c].filter (!Text.isBlank ·) = []
    · rw [moved, visible?, visible?, element, element, Flat.visible?_blank blank,
        Flat.visible?_blank blank, Option.map_none]
    · rw [moved, visible?, visible?, element, element, Flat.visible?_text blank,
        Flat.visible?_text blank]
      rfl
  | tag t =>
    rw [moved, visible?_tag, visible?_tag, Option.map_some]
    -- A tag has no blanks to lose, and each kind of it is moved in the same way.
    obtain ⟨sigil, body, start, stop⟩ := t
    cases sigil <;> rfl

/-- To write neighbouring texts as one leaves the other elements as they are. -/
theorem Flat.filter_merge (flats : List Flat) :
    (merge flats).filter (!·.isText) = flats.filter (!·.isText) := by
  -- The induction is on the elements, of which the texts are left out on both sides.
  induction flats with
  | nil => rfl
  | cons flat rest ih =>
    cases text : flat.isText with
    | false => rw [merge_cons text, List.filter_cons, List.filter_cons, ih]
    | true =>
      obtain ⟨value, span, rfl⟩ := eq_of_isText text
      have passed : ∀ (value : Text) (span : Span) (others : List Flat),
          (Flat.leaf (.text value span) :: others).filter (!·.isText) = others.filter (!·.isText) :=
        fun _ _ _ => rfl
      -- The text and the one behind it are passed over.
      rw [passed, ← ih]
      rcases merge_text_cases value span rest with ⟨more, later, others, same, -, whole⟩ | ⟨-, whole⟩
      · rw [whole, same, passed, passed]
      · rw [whole, passed]

/-- The elements of pieces that are no texts are those of the tags. -/
theorem Piece.filter_visible? (pieces : List Piece) :
    (pieces.filterMap visible?).filter (!·.isText) = (tags pieces).map (·.toFlat {}) := by
  induction pieces with
  | nil => rfl
  | cons piece pieces ih =>
    cases piece with
    | char c offset =>
      have tags_eq : tags (.char c offset :: pieces) = tags pieces := rfl
      rw [tags_eq, ← ih]
      -- A character is a text or nothing.
      cases left : visible? (.char c offset) with
      | none => rw [List.filterMap_cons_none left]
      | some flat =>
        rw [List.filterMap_cons_some left, List.filter_cons_of_neg (by simp [isText_of_visible?_char left])]
    | tag t =>
      -- A tag always has an element, which is no text.
      rw [List.filterMap_cons_some (visible?_tag t),
        List.filter_cons_of_pos (by simp [Tag.isText_toFlat]), ih]
      rfl

mutual

/-- Tags that stand for the elements of a token are balanced. -/
theorem Token.balanced_of_flatten (token : Token) {row : List Tag}
    (same : row.map (·.toFlat {}) = token.flatten.filter (!·.isText)) : Balanced row := by
  have single : token.flatten = [.leaf token] → Balanced row := by
    intro leaf
    rw [leaf, List.filter_cons] at same
    split at same
    · obtain ⟨tag, rest, rfl, element, ended⟩ := List.map_eq_cons_iff.mp same
      obtain rfl := List.map_eq_nil_iff.mp ended
      -- The tag of a token that is no section neither opens nor closes one.
      obtain ⟨opensNone, closesNone⟩ := (Tag.standsFor_of_toFlat element).noBracket
      exact .other opensNone closesNone .nil
    · obtain rfl := List.map_eq_nil_iff.mp same
      exact .nil
  match token with
  | .text _ _ | .variable _ _ _ | .comment _ _ | .switch _ _ | .inclusion _ _ _ => exact single rfl
  -- The tags of a section are the opening one, those of its children and the closing one.
  | .block inverted name span children closeStart =>
    rw [flatten, List.cons_append, List.filter_cons_of_pos rfl, List.filter_append] at same
    obtain ⟨opened, rest, rfl, opening, later⟩ := List.map_eq_cons_iff.mp same
    obtain ⟨inside, behind, rfl, inner, close⟩ := List.map_eq_append_iff.mp later
    obtain ⟨closed, ended, rfl, closing, none⟩ := List.map_eq_cons_iff.mp close
    obtain rfl := List.map_eq_nil_iff.mp none
    obtain ⟨opens, named, -⟩ := Tag.opens_of_toFlat opening
    obtain ⟨closes, named', -⟩ := Tag.closes_of_toFlat closing
    refine .block ?_ closes (named.trans named'.symm) (Token.balanced_of_flattenAll children inner) .nil
    rw [opens]
    cases inverted <;> rfl

/-- Tags that stand for the elements of a row of tokens are balanced. -/
theorem Token.balanced_of_flattenAll (tokens : List Token) {row : List Tag}
    (same : row.map (·.toFlat {}) = (flattenAll tokens).filter (!·.isText)) : Balanced row := by
  -- The recursion is on the row of tokens, each of which has balanced tags.
  match tokens with
  | [] =>
    obtain rfl := List.map_eq_nil_iff.mp same
    exact .nil
  | token :: tokens =>
    rw [flattenAll, List.filter_append] at same
    -- The tags of the first token come before those of the others.
    obtain ⟨first, others, rfl, left, right⟩ := List.map_eq_append_iff.mp same
    exact (Token.balanced_of_flatten token left).append (Token.balanced_of_flattenAll tokens right)

end

/-- The elements of a section stand side by side among those of the tree it is in. -/
theorem Token.Siblings.block_within {tree row children : List Token} {inverted : Bool} {name : Text}
    {span : Span} {closeStart : Int} (siblings : Siblings tree row)
    (member : .block inverted name span children closeStart ∈ row) :
    ∃ before after, flattenAll tree = before ++ .opening inverted name span
      :: (flattenAll children ++ .closing name closeStart :: after) := by
  -- What stands around the section is what is left and right of it, and around its row.
  obtain ⟨front, back, whole⟩ := siblings.flattenAll_within
  obtain ⟨left, right, rfl⟩ := List.append_of_mem member
  refine ⟨front ++ flattenAll left, flattenAll right ++ back, ?_⟩
  rw [← whole]
  simp [flattenAll_append, flattenAll, flatten]

/-- The changes of delimiters in a source in which nothing is wrong. -/
theorem Template.switches_of_reads {source : Text} {pair : Delimiters} {pieces : List Piece}
    (reads : Reads pair 0 source ⟨pieces, none⟩) (sound : fault? source pair = none) :
    switches source pair = pieces.filterMap switch? := by
  -- Without a fault no change has to be left out.
  rw [switches, ← reads_iff.mp reads, sound]

/-- A change of delimiters has the offset of its tag. -/
theorem Template.start_of_switch? {piece : Piece} {switch : Switch}
    (changes : switch? piece = some switch) : ∃ tag, piece = .tag tag ∧ switch.start = tag.start := by
  -- Only a tag may change the delimiters.
  unfold switch? at changes
  split at changes
  · obtain ⟨pair, -, rfl⟩ := Option.map_eq_some_iff.mp changes
    exact ⟨_, rfl, rfl⟩
  · cases changes

/-- The delimiters behind the opening tag of a section are those that the last change before it makes. -/
theorem Template.delimitersAt_stop {source : Text} {pair : Delimiters} {front behind : List Piece}
    {tag : Tag} (reads : Reads pair 0 source ⟨front ++ .tag tag :: behind, none⟩)
    (sound : fault? source pair = none) (opens : tag.sigil.opensSection = true) :
    delimitersAt source pair tag.stop
      = pair.last ((front ++ [Piece.tag tag]).filterMap switch?) := by
  obtain ⟨_, _, -, place, reads'⟩ := reads.before_tag rfl
  obtain ⟨_, _, -, -, reads''⟩ := reads.behind_tag rfl
  have ordered := (reads.tag_within (List.mem_append_right front (.head behind))).2.1
  -- A tag that opens a section changes no delimiters.
  have none : switch? (.tag tag) = none := by
    obtain ⟨sigil, body, start, stop⟩ := tag
    cases sigil <;> first | rfl | cases opens
  -- Tags in front begin in front of this one, and tags behind begin behind it.
  have early : ∀ switch ∈ front.filterMap switch?, decide ((switch.start : Int) < tag.stop) = true := by
    intro switch member
    obtain ⟨piece, among, changes⟩ := List.mem_filterMap.mp member
    obtain ⟨other, rfl, same⟩ := start_of_switch? changes
    have within := reads'.tag_within among
    simp only [decide_eq_true_eq]
    omega
  have late : ∀ switch ∈ behind.filterMap switch?, ¬ decide ((switch.start : Int) < tag.stop) = true := by
    intro switch member
    obtain ⟨piece, among, changes⟩ := List.mem_filterMap.mp member
    obtain ⟨other, rfl, same⟩ := start_of_switch? changes
    have within := reads''.tag_within among
    simp only [decide_eq_true_eq]
    omega
  -- The changes in front of the tag are kept, and those behind it are not.
  rw [delimitersAt, switches_of_reads reads sound, List.filterMap_append, List.filterMap_append,
    List.filterMap_cons_none none, List.filterMap_cons_none none, List.filter_append,
    List.filter_eq_self.mpr early, List.filter_eq_nil_iff.mpr late, List.filterMap_nil]

/-- What stands between two tags reads by itself as the pieces between them. -/
theorem Reads.between {source : Text} {pair : Delimiters} {front within behind : List Piece}
    {opened closed : Tag}
    (reads : Reads pair 0 source ⟨front ++ .tag opened :: (within ++ .tag closed :: behind), none⟩) :
    ∃ pieces, Reads (pair.last ((front ++ [Piece.tag opened]).filterMap Template.switch?)) 0
        (Text.slice source opened.stop closed.start) ⟨pieces, none⟩
      ∧ within = pieces.map (Piece.moved opened.stop) := by
  -- The reading is cut behind the opening tag, and then in front of the closing one.
  obtain ⟨passed, text, rfl, stop, reads'⟩ := reads.behind_tag rfl
  obtain ⟨part, extra, rfl, start, reads''⟩ := reads'.before_tag rfl
  have cutOut : Text.slice (passed ++ (part ++ extra)) opened.stop closed.start = part := by
    have left : (passed ++ (part ++ extra)).drop opened.stop = part ++ extra := by
      rw [← stop, Nat.zero_add, List.drop_left]
    have reaches : opened.stop ≤ (passed ++ (part ++ extra)).length := by
      rw [← stop, List.length_append]
      omega
    have slice := (Text.slice_of_drop reaches left).2
    rwa [start] at slice
  -- To read it by itself gives the same pieces, from the offset of its start on.
  obtain ⟨pieces, alone, same⟩ := reads''.moved_of_complete rfl (Nat.zero_add _).symm
  refine ⟨pieces, ?_, same⟩
  rw [cutOut]
  exact alone

/-- The text inside a section reads by itself as pieces whose elements are those of its children. -/
theorem Template.reads_inside {source : Text} {pair : Delimiters}
    {tokens row children : List Token} {inverted : Bool} {name : Text} {span : Span}
    {closeStart : Int} (parsed : parse source pair = .ok tokens)
    (siblings : Token.Siblings tokens row)
    (member : .block inverted name span children closeStart ∈ row) :
    ∃ pieces, Reads (delimitersAt source pair span.stop) 0 (Text.slice source span.stop closeStart)
        ⟨pieces, none⟩
      ∧ Token.flattenAll (Token.visibleAll (Token.unlinedAll (Token.movedAll (-span.stop) children)))
        = Flat.merge (pieces.filterMap Piece.visible?) := by
  obtain ⟨pieces, reads, whole⟩ := flattenAll_visible_of_parse parsed
  obtain ⟨before, after, split⟩ := siblings.block_within member
  have parts : ((Token.flattenAll tokens).map Flat.unlined).filterMap Flat.visible?
      = (before.map Flat.unlined).filterMap Flat.visible? ++ .opening inverted name span
        :: (((Token.flattenAll children).map Flat.unlined).filterMap Flat.visible?
          ++ .closing name closeStart :: (after.map Flat.unlined).filterMap Flat.visible?) := by
    simp [split, Flat.unlined, Flat.visible?]
  rw [Token.flattenAll_visibleAll, Token.flattenAll_unlinedAll, parts] at whole
  -- The pieces are divided at the opening and at the closing tag of the section.
  obtain ⟨front, opened, rest, rfl, opening, -, later⟩ := Piece.divided_of_merge rfl whole.symm
  obtain ⟨within, closed, behind, rfl, closing, elements, -⟩ := Piece.divided_of_merge rfl later
  obtain ⟨opens, rfl, rfl⟩ := Tag.opens_of_toFlat opening
  obtain ⟨-, -, rfl⟩ := Tag.closes_of_toFlat closing
  have opensSection : opened.sigil.opensSection = true := by
    rw [opens]
    cases inverted <;> rfl
  obtain ⟨pieces, alone, rfl⟩ := reads.between
  rw [← delimitersAt_stop reads (parse_eq_ok parsed).1 opensSection] at alone
  refine ⟨pieces, alone, ?_⟩
  -- The pieces of the source are further on by where the text starts, and so are the children.
  have moved : (pieces.map (Piece.moved opened.stop)).filterMap Piece.visible?
      = (pieces.filterMap Piece.visible?).map (Flat.moved opened.stop) := by
    rw [List.filterMap_map, List.map_filterMap]
    exact List.filterMap_congr fun piece _ => Piece.visible?_moved opened.stop piece
  rw [Token.unlinedAll_movedAll, Token.visibleAll_movedAll, Token.flattenAll_movedAll,
    Token.flattenAll_visibleAll, Token.flattenAll_unlinedAll, ← elements, moved, Flat.merge_moved]
  exact Flat.map_moved_neg ..

/--
The text inside a section is parsed, with the delimiters behind its opening tag, as its children.

The children have their offsets from the start of this text. Blanks of texts may differ, and so may
what stands before references on their lines. Where these are the delimiters in use, a request for
the text succeeds, whatever the cache.
-/
theorem Template.parse_inside {source : Text} {pair : Delimiters} {tokens row children : List Token}
    {inverted : Bool} {name : Text} {span : Span} {closeStart : Int}
    (parsed : parse source pair = .ok tokens) (siblings : Token.Siblings tokens row)
    (member : .block inverted name span children closeStart ∈ row) :
    let inside := Text.slice source span.stop closeStart
    let inner := delimitersAt source pair span.stop
    ∃ found, parse inside inner = .ok found
      ∧ Token.visibleAll (Token.unlinedAll found)
        = Token.visibleAll (Token.unlinedAll (Token.movedAll (-span.stop) children))
      ∧ ∀ {σ : Type} (delimiters : Value) (s : Session σ),
          delimitersOf (delimiters.settled s.edits) = .ok inner →
          ∃ after, request (.text inside) delimiters s
            = some (.ok ((s.cache.bind (·.find? (.text inside) inner)).getD found), after) := by
  intro inside inner
  obtain ⟨pieces, alone, elements⟩ := reads_inside parsed siblings member
  -- The tags of the children match, so nothing is wrong with the text.
  have balanced : Balanced (Piece.tags pieces) := by
    refine Token.balanced_of_flattenAll (Token.visibleAll (Token.unlinedAll
      (Token.movedAll (-span.stop) children))) ?_
    rw [elements, Flat.filter_merge, Piece.filter_visible?]
  have parses : parse inside inner = .ok (Template.tokens inside inner) := by
    have sound : fault? inside inner = none := fault?_eq_none_iff.mpr ⟨pieces, alone, balanced⟩
    rw [parse, sound]
  refine ⟨_, parses, Token.flattenAll_injective ?_, fun _ _ accepted =>
    request_of_parse parses accepted⟩
  obtain ⟨pieces', reads, whole⟩ := flattenAll_visible_of_parse parses
  -- A text is read in one way, so that the pieces are those known from the whole template.
  obtain rfl : pieces' = pieces :=
    congrArg Reading.pieces ((reads_iff.mp reads).trans (reads_iff.mp alone).symm)
  rw [whole, elements]

/-- A section behind a change of delimiters, whose text begins with the blank end of a line. -/
theorem Template.parse_inside_switched :
    let source := ['\x7b', '\x7b', '=', '|', ' ', '|', '=', '\x7d', '\x7d', '|', '#', 's', '|',
      ' ', '\n', '|', 'v', '|', '|', '/', 's', '|']
    let tokens : List Token := [.switch ['|', ' ', '|'] ⟨0, 9⟩,
      .block false ['s'] ⟨9, 13⟩ [.variable true ['v'] ⟨15, 18⟩] 18]
    let bars : Delimiters := ⟨['|'], ['|'], by decide, by decide⟩
    let s : Session Unit := { host := () }
    parse source Delimiters.default = .ok tokens ∧
      delimitersAt source Delimiters.default 13 = bars ∧
      delimitersOf ((Value.text ['|', ' ', '|']).settled s.edits) = .ok bars ∧
      ∃ found, parse [' ', '\n', '|', 'v', '|'] bars = .ok found
        ∧ Token.visibleAll (Token.unlinedAll found)
          = Token.visibleAll (Token.unlinedAll [.variable true ['v'] ⟨2, 5⟩])
        ∧ ∃ after, request (.text [' ', '\n', '|', 'v', '|']) (.text ['|', ' ', '|']) s
          = some (.ok found, after) := by
  intro source tokens bars s
  -- The template is parsed by evaluation.
  have parsed : parse source Delimiters.default = .ok tokens := by decide +kernel
  have there : delimitersAt source Delimiters.default 13 = bars := by decide +kernel
  have accepted : delimitersOf ((Value.text ['|', ' ', '|']).settled s.edits) = .ok bars := rfl
  -- The section stands behind the change, so that its text is read with the new delimiters.
  obtain ⟨found, parses, same, serves⟩ :=
    parse_inside parsed .top (List.mem_cons_of_mem _ List.mem_cons_self)
  rw [there] at parses
  exact ⟨parsed, there, accepted, found, parses, same, serves _ s (there ▸ accepted)⟩

end Mustache
