import Mustache.Proofs.Forest.Reading

/-!
A written forest is parsed as this forest.

Its sections are balanced, and none of its lines is standalone, so that all of its text is kept.
-/

namespace Mustache

namespace Node

/-- A tag by itself opens no section. -/
theorem Single.opensSection_eq {sigil : Sigil} (single : Single sigil) :
    sigil.opensSection = false := by
  -- Neither of the two sigils of sections is single.
  cases sigil <;> first | rfl | exact single.elim

/-- A tag by itself closes no section. -/
theorem Single.ne_closer {sigil : Sigil} (single : Single sigil) : sigil ≠ .closer := by
  -- A closing tag belongs to a section, and so it never stands by itself.
  rintro rfl
  exact single

mutual

/-- The sections in a node are closed. -/
theorem balanced_pieces (node : Node) (proper : node.Proper) (offset : Nat) :
    Balanced (Piece.tags (node.pieces offset)) := by
  -- The cases are the kinds of nodes; a text has no tags, and a single tag opens nothing.
  match node with
  | .text value =>
    rw [pieces, Piece.tags_ofText]
    exact .nil
  | .tag sigil body padding =>
    obtain ⟨single, -⟩ := proper
    exact .other single.opensSection_eq single.ne_closer .nil
  | .block inverted name opening closing children =>
    obtain ⟨-, inner⟩ := proper
    have opens : (Sigil.ofInverted inverted).opensSection = true := by cases inverted <;> rfl
    -- The tags of the children stand between the opening and the closing tag.
    rw [pieces, List.cons_append, Piece.tags_tag, Piece.tags_append]
    exact .block opens rfl rfl (balanced_piecesAll children inner _) .nil

/-- The sections in a forest are closed. -/
theorem balanced_piecesAll (nodes : List Node) (proper : ProperAll nodes) (offset : Nat) :
    Balanced (Piece.tags (piecesAll offset nodes)) := by
  -- Nodes side by side close their own sections.
  match nodes with
  | [] => exact .nil
  | node :: nodes =>
    obtain ⟨first, -, others⟩ := proper
    rw [piecesAll, Piece.tags_append]
    exact (balanced_pieces node first offset).append (balanced_piecesAll nodes others _)

end

end Node

namespace Flat

/-- The characters of a text are written as one, up to what follows. -/
theorem merge_ofText {value : Text} (nonempty : value ≠ []) (offset : Nat) {later : List Flat}
    (none : NoTextFirst later) :
    merge ((Piece.ofText offset value).map Piece.element ++ later)
      = .leaf (.text value ⟨offset, ↑(offset + value.length)⟩) :: merge later := by
  -- The induction is on the text, whose characters are elements of their own at first.
  induction value generalizing offset with
  | nil => exact absurd rfl nonempty
  | cons c value ih =>
    cases value with
    | nil => exact merge_text none.merge [c] ⟨offset, offset + 1⟩
    | cons d value =>
      have others := ih (List.cons_ne_nil d value) (offset + 1)
      show merge (.leaf (.text [c] ⟨offset, offset + 1⟩)
        :: ((Piece.ofText (offset + 1) (d :: value)).map Piece.element ++ later)) = _
      -- The first character is put in front of the others.
      rw [merge, others]
      simp [Nat.add_assoc, Nat.add_comm 1]

end Flat

namespace Node

/-- A node that is no text does not begin with one. -/
theorem noTextFirst_pieces {node : Node} (noText : node.isText = false) (offset : Nat)
    (later : List Flat) : Flat.NoTextFirst ((node.pieces offset).map Piece.element ++ later) := by
  -- It begins with a tag.
  cases node with
  | text value => cases noText
  | tag sigil body padding =>
    intro flat first
    exact Option.some.inj first ▸ Tag.isText_toFlat _ _
  | block inverted name opening closing children =>
    intro flat first
    exact Option.some.inj first ▸ Tag.isText_toFlat _ _

mutual

/-- The elements of the pieces of a node are those of its token. -/
theorem merge_pieces (node : Node) (proper : node.Proper) (offset : Nat) {later : List Flat}
    (apart : node.isText = true → Flat.NoTextFirst later) :
    Flat.merge ((node.pieces offset).map Piece.element ++ later)
      = (node.token offset).flatten ++ Flat.merge later := by
  match node with
  | .text value => exact Flat.merge_ofText proper.1 offset (apart rfl)
  | .tag sigil body padding =>
    obtain ⟨single, -⟩ := proper
    rw [pieces, List.map_singleton, List.singleton_append, Piece.element,
      Flat.merge_cons (Tag.isText_toFlat ..)]
    -- Each sigil of a tag by itself stands for a token.
    cases sigil <;> first | rfl | exact single.elim
  | .block inverted name opening closing children =>
    obtain ⟨-, inner⟩ := proper
    have behind : ∀ tag : Tag, Flat.NoTextFirst (tag.toFlat {} :: later) := fun tag flat first =>
      Option.some.inj first ▸ Tag.isText_toFlat tag {}
    -- The children stand between two elements that are no texts.
    rw [pieces, List.cons_append, List.map_cons, List.map_append, List.cons_append, List.append_assoc,
      List.map_singleton, List.singleton_append, Piece.element, Piece.element,
      Flat.merge_cons (Tag.isText_toFlat ..), merge_piecesAll children inner _ (behind _),
      Flat.merge_cons (Tag.isText_toFlat ..), token, Token.flatten]
    cases inverted <;> simp [Sigil.ofInverted, Tag.toFlat, Tag.span]

/-- The elements of the pieces of a forest are those of its token tree. -/
theorem merge_piecesAll (nodes : List Node) (proper : ProperAll nodes) (offset : Nat)
    {later : List Flat} (none : Flat.NoTextFirst later) :
    Flat.merge ((piecesAll offset nodes).map Piece.element ++ later)
      = Token.flattenAll (tokensAll offset nodes) ++ Flat.merge later := by
  match nodes with
  | [] => rfl
  | node :: nodes =>
    obtain ⟨first, apart, others⟩ := proper
    -- The first node is put in front of the elements of the others.
    rw [piecesAll, List.map_append, List.append_assoc, tokensAll, Token.flattenAll, List.append_assoc,
      ← merge_piecesAll nodes others _ none]
    refine merge_pieces node first offset fun text => ?_
    -- A text is followed by a node that is none, or by what follows all of them.
    cases nodes with
    | nil => exact none
    | cons next nodes =>
      rw [piecesAll, List.map_append, List.append_assoc]
      exact noTextFirst_pieces (apart text next rfl) _ _

end

end Node

/-- All text is kept where no line is standalone. -/
theorem Piece.unlined_flats_of_shows {pieces : List Piece}
    (shows : ∀ line ∈ lines pieces, standalone line = false) :
    (flats pieces).map Flat.unlined = pieces.map element := by
  have kept : ((lines pieces).flatMap fun line =>
      line.filter fun piece => !standalone line || piece.isTag) = (lines pieces).flatMap id := by
    refine List.flatMap_congr fun line member => ?_
    simp [shows line member]
  -- The lines together hold all pieces.
  rw [unlined_flats, kept, List.flatMap_id, flatten_lines]

/-- Where every line with a tag has something that shows, no line is standalone. -/
theorem Node.LinesShow.standalone_eq {nodes : List Node} (shows : LinesShow nodes) :
    ∀ line ∈ Piece.lines (piecesAll 0 nodes), Piece.standalone line = false := by
  intro line member
  -- A line without tags never stands alone.
  cases tagged : line.any Piece.isTag with
  | false => rw [Piece.standalone, tagged, Bool.false_and]
  | true =>
    obtain ⟨piece, among, visible⟩ := shows line member tagged
    -- What shows is not silent.
    have silent : line.all Piece.isSilent = false :=
      List.all_eq_false.mpr ⟨piece, among, by simp [visible]⟩
    rw [Piece.standalone, silent, Bool.and_false]

/--
A forest is written as a template that is parsed as this forest.

All offsets are those of the written text; what stands before references on their lines is left
aside. Names in braces and names with an ampersand are both read as names that are not escaped.
-/
theorem Template.parse_writtenAll {nodes : List Node} (proper : Node.ProperAll nodes)
    (shows : Node.LinesShow nodes) :
    ∃ tokens, parse (Node.writtenAll nodes) .default = .ok tokens
      ∧ Token.unlinedAll tokens = Node.tokensAll 0 nodes := by
  have ended : Reads .default (0 + (Node.writtenAll nodes).length) [] ⟨[], none⟩ :=
    .finished (by decide)
  have reads := Node.reads_writtenAll nodes proper ended
  rw [List.append_nil, List.append_nil] at reads
  -- The tags of a proper forest are balanced, so that there is nothing to report.
  have sound : fault? (Node.writtenAll nodes) .default = none :=
    fault?_eq_none_iff.mpr ⟨_, reads, Node.balanced_piecesAll nodes proper 0⟩
  have parsed : parse (Node.writtenAll nodes) .default
      = .ok (tokens (Node.writtenAll nodes) .default) := by
    rw [parse, sound]
  refine ⟨_, parsed, Token.flattenAll_injective ?_⟩
  obtain ⟨pieces, reads', -, whole⟩ := flattenAll_of_parse parsed
  obtain rfl : pieces = Node.piecesAll 0 nodes :=
    congrArg Reading.pieces ((reads_iff.mp reads').trans (reads_iff.mp reads).symm)
  -- The elements are those of the pieces, of which all are kept.
  have elements := Node.merge_piecesAll nodes proper 0 Flat.noTextFirst_nil
  rw [List.append_nil, Flat.merge, List.append_nil] at elements
  rw [Token.flattenAll_unlinedAll, whole, ← Flat.merge_unlined,
    Piece.unlined_flats_of_shows shows.standalone_eq, elements]

/-- A section with a reference, a name in braces and blanks in its tags is parsed as it is written. -/
theorem Template.parse_writtenAll_section :
    let nodes := [Node.text ['a'], .block true ['s'] {lead := [' ']} {trail := ['\n']}
      [.tag .inclusion ['p'] {gap := ['\n']}, .text ['b', '\n'], .tag .brace ['&'] {trail := [' ']}]]
    Node.ProperAll nodes ∧ Node.LinesShow nodes
      ∧ ∃ tokens, parse (Node.writtenAll nodes) .default = .ok tokens
        ∧ Token.unlinedAll tokens = Node.tokensAll 0 nodes := by
  intro nodes
  -- Something shows on the line of every tag, so that no text is stripped.
  have proper : Node.ProperAll nodes := by decide
  have shows : Node.LinesShow nodes := by decide
  exact ⟨proper, shows, parse_writtenAll proper shows⟩

end Mustache
