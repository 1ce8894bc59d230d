import Mustache.Proofs.Buffer
import Mustache.Proofs.Unlined

/-!
Building the tree of a template, whose sections are opened and closed twice.

While the source is read, a stack has the opening tags of the open sections.
The tree is built later, from the elements that are left, with a frame for every open section.
At the same place, the frames are those of the tags on the stack.
-/

namespace Mustache

/-- A tree under construction: its open sections, and the tokens inside the innermost one. -/
structure Nest where
  /-- The open sections, the innermost first. -/
  frames : List Frame := []
  /-- The tokens that are complete, the last first. -/
  siblings : List Token := []

namespace Nest

/-- Build on with one more element, unless it closes a section where none is open. -/
def take? (nest : Nest) : Flat → Option Nest
  | .leaf token => some { nest with siblings := token :: nest.siblings }
  | .opening inverted name span =>
    some { frames := ⟨inverted, name, span, nest.siblings⟩ :: nest.frames }
  | .closing _ start =>
    match nest.frames with
    | [] => none
    | frame :: outer =>
      let closed := Token.block frame.inverted frame.name frame.span nest.siblings.reverse start
      some { frames := outer, siblings := closed :: frame.before }

/-- Build on with a row of elements. -/
def takeAll? : Nest → List Flat → Option Nest
  | nest, [] => some nest
  | nest, flat :: rest => (nest.take? flat).bind (·.takeAll? rest)

/-- The tokens outside all sections. -/
def root (nest : Nest) : List Token := (Frame.outermost nest.frames nest.siblings).reverse

/-- Where no closing tag is met outside all sections, the tree is built element by element. -/
theorem nestInside_of_takeAll? {flats : List Flat} {nest last : Nest}
    (built : nest.takeAll? flats = some last) :
    Flat.nestInside nest.frames nest.siblings flats = last.root := by
  -- The induction follows the elements, with the tree built so far.
  induction flats generalizing nest with
  | nil =>
    obtain rfl := Option.some.inj built
    rfl
  | cons flat rest ih =>
    obtain ⟨next, taken, built'⟩ := Option.bind_eq_some_iff.mp built
    rw [← ih built']
    cases flat with
    | leaf token =>
      obtain rfl := Option.some.inj taken
      rfl
    | opening inverted name span =>
      obtain rfl := Option.some.inj taken
      rfl
    -- A closing tag finds a frame to close, since none is met outside.
    | closing name start =>
      obtain ⟨frames, siblings⟩ := nest
      cases frames with
      | nil => cases taken
      | cons frame outer =>
        obtain rfl := Option.some.inj taken
        rfl

end Nest

/-- The frame of a section that was opened by a tag. -/
structure Frame.OpenedBy (frame : Frame) (tag : Tag) : Prop where
  /-- The tag opens a section of this kind. -/
  sigil : tag.sigil = if frame.inverted then .inverter else .opener
  /-- The section has the name of the tag. -/
  name : frame.name = tag.body
  /-- The section starts with the tag. -/
  span : frame.span = tag.span

/-- The elements of a row of pieces: one for each tag, and texts anywhere between them. -/
inductive Follows : List Flat → List Piece → Prop
  /-- No piece has no element. -/
  | nil : Follows [] []
  /-- A text may come first. -/
  | text {value : Text} {span : Span} {flats : List Flat} {pieces : List Piece}
      (later : Follows flats pieces) : Follows (.leaf (.text value span) :: flats) pieces
  /-- A character has no element of its own. -/
  | char {c : Char} {offset : Nat} {flats : List Flat} {pieces : List Piece}
      (later : Follows flats pieces) : Follows flats (.char c offset :: pieces)
  /-- The element of a tag comes first. -/
  | tag {tag : Tag} {before : LinePrefix} {flats : List Flat} {pieces : List Piece}
      (later : Follows flats pieces) : Follows (tag.toFlat before :: flats) (.tag tag :: pieces)

namespace Piece

/-- The stack behind pieces side by side is built in two steps. -/
theorem openAfter_passed (stack : List Tag) (passed rest : List Piece) :
    openAfter stack (passed ++ rest)
      = (openAfter stack passed).bind fun left => openAfter left rest := by
  -- The induction is on the pieces of the first step.
  induction passed generalizing stack with
  | nil => rfl
  | cons piece passed ih =>
    rw [List.cons_append, openAfter_cons, openAfter_cons stack piece passed]
    -- Either the piece is at fault, or the others go on with what it leaves.
    cases openAfter stack [piece] with
    | error fault => rfl
    | ok left => exact ih left

end Piece

namespace Follows

/-- The elements of a line follow its pieces. -/
theorem lineFlats {flats : List Flat} {pieces : List Piece} (later : Follows flats pieces)
    (keepsText : Bool) (before : LinePrefix) (line : List Piece) :
    Follows (Piece.lineFlats keepsText before line ++ flats) (line ++ pieces) := by
  induction line generalizing before with
  | nil => exact later
  | cons piece line ih =>
    cases piece with
    | tag t => exact .tag (ih _)
    | char c offset =>
      -- With the text of the line a character has an element, but none has to be there.
      cases keepsText with
      | false => exact .char (ih _)
      | true => exact .text (.char (ih _))

/-- The elements of the lines of a template follow its pieces. -/
theorem flats (pieces : List Piece) : Follows (Piece.flats pieces) pieces := by
  -- Line by line, since what is kept of a line depends on that line alone.
  have lines : ∀ lines : List (List Piece), Follows
      (lines.flatMap fun line => Piece.lineFlats (!Piece.standalone line) {} line)
      lines.flatten := by
    intro lines
    induction lines with
    | nil => exact .nil
    | cons line lines ih => exact ih.lineFlats _ _ line
  -- The lines of a template are all of its pieces.
  have whole := lines (Piece.lines pieces)
  rwa [Piece.flatten_lines] at whole

/-- Behind a text that comes first, the other elements follow the same pieces. -/
theorem of_text {value : Text} {span : Span} {flats : List Flat} {pieces : List Piece}
    (follows : Follows (.leaf (.text value span) :: flats) pieces) : Follows flats pieces := by
  generalize whole : Flat.leaf (.text value span) :: flats = all at follows
  -- Pieces without an element may come before the text.
  induction follows with
  | nil => cases whole
  | text later _ =>
    cases whole
    exact later
  | char _ ih => exact .char (ih whole)
  | tag _ _ =>
    -- The element of a tag is no text.
    exact absurd (List.cons.inj whole).1.symm (Tag.toFlat_ne_text _ _ _ _)

/-- Neighbouring texts may be written as one. -/
theorem merge {flats : List Flat} {pieces : List Piece} (follows : Follows flats pieces) :
    Follows (Flat.merge flats) pieces := by
  -- Only two texts side by side may become one; what follows both of them follows the joined one.
  induction follows with
  | nil => exact .nil
  | @text value span flats _ _ ih =>
    -- A text in front of another one takes the place of both.
    rcases Flat.merge_text_cases value span flats with
      ⟨more, later, others, same, -, whole⟩ | ⟨-, whole⟩
    · rw [whole]
      rw [same] at ih
      exact .text ih.of_text
    · rw [whole]
      exact .text ih
  | char _ ih => exact .char ih
  | tag _ ih =>
    rw [Flat.merge_cons (Tag.isText_toFlat _ _)]
    exact .tag ih

/-- An element that is no text is that of a tag, and the others follow in front of it and behind. -/
theorem split {front back : List Flat} {flat : Flat} {pieces : List Piece}
    (follows : Follows (front ++ flat :: back) pieces) (noText : flat.isText = false) :
    ∃ passed tag before rest, pieces = passed ++ .tag tag :: rest ∧ flat = tag.toFlat before
      ∧ Follows front passed ∧ Follows back rest := by
  -- The induction is on how the elements follow the pieces, up to the element looked for.
  generalize whole : front ++ flat :: back = row at follows
  induction follows generalizing front with
  | nil => simp at whole
  | @text value span flats pieces later ih =>
    cases front with
    | nil =>
      obtain ⟨rfl, -⟩ := List.cons.inj whole
      cases noText
    | cons first front =>
      rw [List.cons_append] at whole
      obtain ⟨rfl, onward⟩ := List.cons.inj whole
      obtain ⟨passed, tag, before, rest, same, element, inFront, behind⟩ := ih onward
      exact ⟨passed, tag, before, rest, same, element, .text inFront, behind⟩
  | @char c offset flats pieces later ih =>
    -- A character that has no element stands in front of what is looked for.
    obtain ⟨passed, tag, before, rest, same, element, inFront, behind⟩ := ih whole
    exact ⟨.char c offset :: passed, tag, before, rest, by rw [same]; rfl, element, .char inFront,
      behind⟩
  | @tag tag before flats pieces later ih =>
    cases front with
    | nil =>
      obtain ⟨rfl, rfl⟩ := List.cons.inj whole
      exact ⟨[], tag, before, pieces, rfl, rfl, .nil, later⟩
    | cons first front =>
      rw [List.cons_append] at whole
      obtain ⟨rfl, onward⟩ := List.cons.inj whole
      obtain ⟨passed, tag', before', rest, same, element, inFront, behind⟩ := ih onward
      exact ⟨.tag tag :: passed, tag', before', rest, by rw [same]; rfl, element, .tag inFront,
        behind⟩

/--
The frames are those of the tags on the stack, and stay so when both go on.

Where no closing tag is at fault, none is met outside all sections.
-/
theorem simulates {flats : List Flat} {pieces : List Piece} (follows : Follows flats pieces)
    (nest : Nest) {stack stack' : List Tag}
    (opened : List.Forall₂ Frame.OpenedBy nest.frames stack)
    (matched : Piece.openAfter stack pieces = .ok stack') :
    ∃ last, nest.takeAll? flats = some last
      ∧ List.Forall₂ Frame.OpenedBy last.frames stack' := by
  induction follows generalizing nest stack with
  | nil =>
    obtain rfl := Except.ok.inj matched
    exact ⟨nest, rfl, opened⟩
  | @text value span flats pieces later ih =>
    exact ih { nest with siblings := .text value span :: nest.siblings } opened matched
  | char later ih => exact ih nest opened matched
  | @tag tag before flats pieces later ih =>
    rw [Nest.takeAll?]
    cases element : tag.toFlat before with
    | leaf token =>
      -- A tag that stands for a token changes neither the stack nor the frames.
      obtain ⟨opensNone, closesNone⟩ := (Tag.standsFor_of_toFlat element).noBracket
      rw [Piece.openAfter_other opensNone closesNone] at matched
      exact ih { nest with siblings := token :: nest.siblings } opened matched
    | opening inverted name span =>
      obtain ⟨sigil, rfl, rfl⟩ := Tag.opens_of_toFlat element
      have opens : tag.sigil.opensSection = true := by
        rw [sigil]
        cases inverted <;> rfl
      rw [Piece.openAfter_opener opens] at matched
      exact ih _ (.cons ⟨sigil, rfl, rfl⟩ opened) matched
    | closing name start =>
      obtain ⟨closes, -, -⟩ := Tag.closes_of_toFlat element
      obtain ⟨innermost, outer, rfl, -, matched⟩ := Piece.openAfter_closer_ok closes matched
      -- The innermost frame is closed when its tag is taken off the stack.
      obtain ⟨frames, siblings⟩ := nest
      cases opened with
      | @cons frame _ frames _ _ opened =>
        exact ih ⟨frames, _ :: frame.before⟩ opened matched

end Follows

/-- Behind the same elements and pieces, the frames are those of the tags on the stack. -/
structure Together (front : List Flat) (passed : List Piece) (nest : Nest) (stack : List Tag) :
    Prop where
  /-- The tree is built of the elements. -/
  built : Nest.takeAll? {} front = some nest
  /-- The tags are those that the pieces leave open. -/
  matched : Piece.openAfter [] passed = .ok stack
  /-- Each frame was opened by the tag at its depth. -/
  opened : List.Forall₂ Frame.OpenedBy nest.frames stack

namespace Follows

variable {flats : List Flat} {pieces : List Piece} {stack : List Tag}

/-- Where no closing tag is at fault, the frames and the stack are built together. -/
theorem together (follows : Follows flats pieces)
    (matched : Piece.openAfter [] pieces = .ok stack) :
    ∃ nest, Together flats pieces nest stack := by
  -- Nothing is open where the template begins, neither in the tree nor on the stack.
  obtain ⟨nest, built, opened⟩ := follows.simulates {} .nil matched
  exact ⟨nest, built, matched, opened⟩

/-- A closing tag closes the frame that was opened by the tag it takes off the stack. -/
theorem closes_together (follows : Follows flats pieces)
    (matched : Piece.openAfter [] pieces = .ok stack) {front back : List Flat} {name : Text}
    {start : Int} (whole : flats = front ++ .closing name start :: back) :
    ∃ passed closer rest frame outer siblings innermost others,
      pieces = passed ++ .tag closer :: rest ∧ closer.toFlat {} = .closing name start
        ∧ Together front passed ⟨frame :: outer, siblings⟩ (innermost :: others)
        ∧ frame.OpenedBy innermost ∧ innermost.body = closer.body := by
  subst whole
  obtain ⟨passed, closer, before, rest, rfl, element, inFront, -⟩ := follows.split rfl
  obtain ⟨closes, rfl, rfl⟩ := Tag.closes_of_toFlat element.symm
  -- The stack in front of the tag has its opening tag on top, or else the tag would be at fault.
  rw [Piece.openAfter_passed] at matched
  cases open' : Piece.openAfter [] passed with
  | error fault =>
    rw [open'] at matched
    cases matched
  | ok stack' =>
    rw [open'] at matched
    obtain ⟨innermost, others, rfl, named, -⟩ := Piece.openAfter_closer_ok closes matched
    obtain ⟨⟨frames, siblings⟩, together⟩ := inFront.together open'
    obtain ⟨built, matched', opened⟩ := together
    cases opened with
    | @cons frame _ outer _ first others' =>
      -- What stands innermost on the stack is the tag that opened the innermost frame.
      refine ⟨passed, closer, rest, frame, outer, siblings, innermost, others, rfl, ?_,
        ⟨built, matched', .cons first others'⟩, first, named⟩
      simp [Tag.toFlat, closes]

end Follows

/-- What is parsed when the tags leave some sections open. -/
theorem Template.parse_of_openAfter {source : Text} {pair : Delimiters} {stack : List Tag}
    (complete : (Reading.ofSource source pair).fault = none)
    (matched : Piece.openAfter [] (Reading.ofSource source pair).pieces = .ok stack) :
    parse source pair = match stack with
      | [] => .ok (tokens source pair)
      | innermost :: _ => .error (.unclosedSection innermost.body source.length) := by
  -- The reading is complete, so that only an open section could be a fault.
  cases stack <;> simp [parse, fault?, matched, complete]

/--
Nesting the elements of a template is undone by listing them, and it closes the sections that the
source does.

While the elements are collected, each place that is noted is that of a blank of the line at hand.
Where the source is read to its end, each closing tag among the elements closes the frame that was
opened by the tag it takes off the stack. In the end the frames are those of the tags that are left
on the stack. Either there is none, and the tree has just these elements, or parsing fails.
-/
theorem Template.nested_as_matched (source : Text) (pair : Delimiters) :
    let reading := Reading.ofSource source pair
    let row := Flat.merge (Piece.flats reading.pieces)
    (∀ state, Collecting.Reaches reading.pieces state →
        state.taken ++ state.left = reading.pieces
          ∧ (∀ place ∈ state.buffer.blanks, Collecting.Notes state.buffer state.taken place)
          ∧ (state.phase = .finished → Flat.merge state.buffer.kept = row))
      ∧ (∃ state, Collecting.Reaches reading.pieces state ∧ state.phase = .finished)
      ∧ ∀ stack, reading.fault = none → Piece.openAfter [] reading.pieces = .ok stack →
        (∀ front name start back, row = front ++ .closing name start :: back →
          ∃ passed closer rest frame outer siblings innermost others,
            reading.pieces = passed ++ .tag closer :: rest
              ∧ closer.toFlat {} = .closing name start
              ∧ Together front passed ⟨frame :: outer, siblings⟩ (innermost :: others)
              ∧ frame.OpenedBy innermost ∧ innermost.body = closer.body)
          ∧ ∃ last, Together row reading.pieces last stack
            ∧ ((stack = [] ∧ last.frames = [] ∧ parse source pair = .ok last.root
                ∧ Token.flattenAll last.root = row)
              ∨ ∃ innermost outer, stack = innermost :: outer
                ∧ parse source pair
                  = .error (.unclosedSection innermost.body source.length)) := by
  intro reading row
  have follows : Follows row reading.pieces := (Follows.flats reading.pieces).merge
  refine ⟨fun state reaches => ?_, Collecting.exists_finished reading.pieces,
    fun stack complete matched => ⟨fun front name start back whole => ?_, ?_⟩⟩
  · exact ⟨reaches.taken_append_left, reaches.sound.notes,
      fun finished => congrArg Flat.merge (reaches.kept_eq finished)⟩
  · exact follows.closes_together matched whole
  · obtain ⟨last, together⟩ := follows.together matched
    -- Frames and open tags are there in the same number, so that one decides for the other.
    refine ⟨last, together, ?_⟩
    have parsed := parse_of_openAfter complete matched
    cases stack with
    | cons innermost outer => exact .inr ⟨innermost, outer, rfl, parsed⟩
    | nil =>
      -- No frame is left, and the tree that was built is the one that is parsed.
      have closed : last.frames = [] := List.forall₂_nil_right_iff.mp together.opened
      have same : tokens source pair = last.root := Nest.nestInside_of_takeAll? together.built
      rw [same] at parsed
      obtain ⟨pieces, reads, -, whole⟩ := flattenAll_of_parse parsed
      have read : pieces = reading.pieces := congrArg Reading.pieces (reads_iff.mp reads)
      rw [read] at whole
      exact .inl ⟨rfl, closed, parsed, whole⟩

/-- A section without content, alone on a line that begins with a blank. -/
theorem Template.nested_as_matched_alone :
    let source : Text := " \x7b\x7b#a\x7d\x7d\x7b\x7b/a\x7d\x7d".toList
    let opener : Tag := ⟨.opener, ['a'], 1, 7⟩
    let closer : Tag := ⟨.closer, ['a'], 7, 13⟩
    let buffer : Buffer :=
      ⟨[some (.leaf (.text [' '] ⟨0, 1⟩))], [0], false, false, ⟨[' '], 0, false⟩⟩
    let state : Collecting := ⟨buffer, [.char ' ' 0], [.tag opener, .tag closer], .reading⟩
    let row := [.opening false ['a'] ⟨1, 7⟩, .closing ['a'] 7]
    Reading.ofSource source .default = ⟨.char ' ' 0 :: state.left, none⟩
      ∧ Collecting.Reaches (.char ' ' 0 :: state.left) state
      ∧ Collecting.Notes buffer state.taken 0
      ∧ Piece.openAfter [] (.char ' ' 0 :: state.left) = .ok []
      ∧ Flat.merge (Piece.flats (.char ' ' 0 :: state.left)) = row
      ∧ (∃ passed frame outer siblings innermost others,
        Together [.opening false ['a'] ⟨1, 7⟩] passed ⟨frame :: outer, siblings⟩
            (innermost :: others)
          ∧ frame.OpenedBy innermost ∧ innermost.body = ['a'])
      ∧ ∃ tokens, parse source .default = .ok tokens ∧ Token.flattenAll tokens = row := by
  intro source opener closer buffer state row
  -- The blank is noted for now, and taken back when its line turns out to be standalone.
  have read : Reading.ofSource source .default = ⟨.char ' ' 0 :: state.left, none⟩ := by
    decide +kernel
  have reaches : Collecting.Reaches (.char ' ' 0 :: state.left) state := .single .take
  have matched : Piece.openAfter [] (.char ' ' 0 :: state.left) = .ok [] := by decide +kernel
  have merged : Flat.merge (Piece.flats (.char ' ' 0 :: state.left)) = row := by decide +kernel
  obtain ⟨collecting, -, nesting⟩ := nested_as_matched source .default
  rw [read] at collecting nesting
  obtain ⟨closing, last, together, ended⟩ := nesting [] rfl matched
  obtain ⟨passed, closer', rest, frame, outer, siblings, innermost, others, -, element, closes,
    opened, named⟩ := closing [.opening false ['a'] ⟨1, 7⟩] ['a'] 7 [] merged
  refine ⟨read, reaches, (collecting state reaches).2.1 0 (.head _), matched, merged,
    ⟨passed, frame, outer, siblings, innermost, others, closes, opened, ?_⟩, ?_⟩
  · rw [named, (Tag.closes_of_toFlat element).2.1]
  · -- No section is left open.
    rcases ended with ⟨-, -, parsed, whole⟩ | ⟨_, _, none, -⟩
    · exact ⟨last.root, parsed, whole.trans merged⟩
    · cases none

end Mustache
