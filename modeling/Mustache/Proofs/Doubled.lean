import Mustache.Proofs.LineBefore
import Mustache.Proofs.LineBreak
import Mustache.Proofs.Forest.Parse
import Mustache.Proofs.Spread.Parse
import Mustache.Proofs.Consulting
import Mustache.Proofs.Succeeding

/-!
The margin in front of a reference to another template.

Where the reference stands alone on its line the margin is written once, by the template.
Where text follows on the line the margin is kept and written by the template again.
-/

namespace Mustache

variable {σ : Type}

namespace Text

/-- The first line of a text, without the line break that ends it. -/
def firstLine (t : Text) : Text := t.takeWhile (· ≠ '\n')

/-- What stands behind the first line of a text and the line break that ends it. -/
def behindLine (t : Text) : Text := (t.dropWhile (· ≠ '\n')).drop 1

/-- A text has no line break, or is its first line, a line break and what stands behind. -/
theorem firstLine_cases (t : Text) :
    (t = t.firstLine ∧ t.behindLine = []) ∨ t = t.firstLine ++ '\n' :: t.behindLine := by
  -- The first line break that is met ends the first line.
  induction t with
  | nil => exact .inl ⟨rfl, rfl⟩
  | cons c t ih =>
    by_cases breaks : c = '\n'
    · exact .inr (by simp [firstLine, behindLine, breaks])
    · -- Any other character extends the first line.
      have first : firstLine (c :: t) = c :: firstLine t := by simp [firstLine, breaks]
      have behind : behindLine (c :: t) = behindLine t := by simp [behindLine, breaks]
      rw [first, behind]
      exact ih.imp (.imp_left (congrArg (c :: ·))) (congrArg (c :: ·))

/-- There is no line break in the first line. -/
theorem not_mem_firstLine (t : Text) : '\n' ∉ t.firstLine := by
  intro member
  -- It would have ended the line before.
  have passed := List.mem_takeWhile_imp member
  simp at passed

/-- The first line is the first of the pieces between line breaks. -/
theorem pieces_fst (t : Text) : (pieces '\n' t).1 = t.firstLine := by
  -- A line break ends the first piece and the first line at once.
  induction t with
  | nil => rfl
  | cons c t ih =>
    by_cases breaks : c = '\n' <;> simp [pieces, firstLine, breaks, ih]

end Text

namespace Piece

/-- A row of pieces in which none but the last one may end a line is one line. -/
theorem lines_single {front : List Piece} (goesOn : ∀ piece ∈ front, piece.endsLine = false)
    (last : Piece) : lines (front ++ [last]) = [front ++ [last]] := by
  -- The first piece goes on, so that it joins the line of the pieces behind it.
  induction front with
  | nil =>
    rw [List.nil_append, lines]
    split <;> rfl
  | cons piece front ih =>
    rw [List.forall_mem_cons] at goesOn
    rw [List.cons_append, lines, if_neg (by simp [goesOn.1]), ih goesOn.2]

/-- No character of a line ends it. -/
theorem goesOn_ofText {t : Text} (single : '\n' ∉ t) (offset : Nat) :
    ∀ piece ∈ ofText offset t, piece.endsLine = false := by
  -- The induction is on the text, whose characters become pieces.
  induction t generalizing offset with
  | nil => nofun
  | cons c t ih =>
    -- The text begins with another character than a line break.
    rw [List.mem_cons, not_or] at single
    rw [ofText, List.forall_mem_cons]
    exact ⟨by simpa [endsLine] using Ne.symm single.1, ih single.2 (offset + 1)⟩

/-- The elements of a line in front of more of it: characters are kept or not. -/
theorem lineFlats_ofText (keepsText : Bool) (before : LinePrefix) (offset : Nat) (t : Text)
    (rest : List Piece) :
    lineFlats keepsText before (ofText offset t ++ rest)
      = (if keepsText then (ofText offset t).map element else [])
        ++ lineFlats keepsText ((ofText offset t).foldl LinePrefix.extend before) rest := by
  -- Each character is kept or not as all of them are, and extends what is in front.
  induction t generalizing before offset with
  | nil => cases keepsText <;> rfl
  | cons c t ih =>
    rw [ofText, List.cons_append, lineFlats, List.foldl_cons, ih]
    cases keepsText <;> rfl

/-- Text without tags is kept, on whatever lines it is. -/
theorem flats_ofText (offset : Nat) (t : Text) :
    flats (ofText offset t) = (ofText offset t).map element := by
  have kept : ∀ line ∈ lines (ofText offset t),
      lineFlats (!standalone line) {} line = line.map element := by
    intro line member
    -- All pieces of a line are characters, so that no line is standalone.
    have chars : ∀ piece ∈ line, ∃ c place, piece = .char c place := by
      intro piece among
      have inside : piece ∈ ofText offset t := by
        rw [← flatten_lines (ofText offset t)]
        exact List.mem_flatten_of_mem member among
      cases piece with
      | char c place => exact ⟨c, place, rfl⟩
      | tag tag => exact absurd inside tag_notMem_ofText
    have untagged : line.any isTag = false := List.any_eq_false.mpr fun piece among => by
      obtain ⟨c, place, rfl⟩ := chars piece among
      exact Bool.false_ne_true
    rw [standalone, untagged, Bool.false_and, Bool.not_false]
    clear member untagged
    -- What stands in front on the line makes no difference to characters.
    generalize ({} : LinePrefix) = before
    induction line generalizing before with
    | nil => rfl
    | cons piece line ih =>
      rw [List.forall_mem_cons] at chars
      obtain ⟨⟨c, place, rfl⟩, others⟩ := chars
      rw [lineFlats, if_pos rfl, ih others, List.map_cons]
      rfl
  rw [flats, List.flatMap_congr kept, ← List.map_flatMap, List.flatMap_id', flatten_lines]

/-- The first line of a text continues what is in front of it, and the text behind is kept. -/
theorem flats_firstLine {front : List Piece} (nonempty : front ≠ [])
    (goesOn : ∀ piece ∈ front, piece.endsLine = false) (offset : Nat) (t : Text) :
    ∃ line : Text, t = line ++ t.behindLine ∧ (line.Blank ↔ t.firstLine.Blank)
      ∧ flats (front ++ ofText offset t)
        = lineFlats (!standalone (front ++ ofText offset line)) {} (front ++ ofText offset line)
          ++ (ofText (offset + line.length) t.behindLine).map element := by
  have first := goesOn_ofText t.not_mem_firstLine offset
  have front_goesOn : ∀ piece ∈ front ++ ofText offset t.firstLine, piece.endsLine = false := by
    rw [List.forall_mem_append]
    exact ⟨goesOn, first⟩
  rcases t.firstLine_cases with ⟨single, none⟩ | whole
  · -- All pieces are on one line.
    rw [← single] at front_goesOn
    obtain ⟨init, last, row⟩ : ∃ init last, front ++ ofText offset t = init ++ [last] :=
      ⟨_, _, (List.dropLast_append_getLast (List.append_ne_nil_of_left_ne_nil nonempty _)).symm⟩
    refine ⟨t, by rw [none, List.append_nil], by rw [← single], ?_⟩
    rw [none, row, flats, lines_single]
    · simp [ofText]
    · exact fun piece member => front_goesOn piece (row ▸ List.mem_append_left _ member)
  · -- The line break ends the line that the first pieces begin.
    refine ⟨t.firstLine ++ ['\n'], by simpa using whole, ?_, ?_⟩
    · simp only [Text.blank_append, and_iff_left_iff_imp]
      intro _ c member
      rw [List.mem_singleton.mp member]
      decide
    · have cut : front ++ ofText offset t
          = front ++ ofText offset t.firstLine ++ .char '\n' (offset + t.firstLine.length)
            :: ofText (offset + t.firstLine.length + 1) t.behindLine := by
        conv_lhs => rw [whole, ofText_append, ofText]
        rw [List.append_assoc]
      rw [cut, flats_append rfl, flats_ofText, ofText_append, ofText, ofText, ← List.append_assoc,
        List.length_append, List.length_singleton, Nat.add_assoc]
      -- What is left to see is the line that ends with the break, of which the pieces are all.
      congr 1
      rw [flats, lines_single front_goesOn, List.flatMap_singleton]

end Piece

/-- The tokens of a text that stands at an offset: there are none if it is empty. -/
def Token.ofText (offset : Nat) (t : Text) : List Token :=
  if t = [] then [] else [.text t ⟨offset, ↑(offset + t.length)⟩]

/-- The characters of a text are written as its token, in front of what is no text. -/
theorem Flat.merge_ofText_tokens (offset : Nat) (t : Text) {later : List Flat}
    (none : NoTextFirst later) :
    merge ((Piece.ofText offset t).map Piece.element ++ later)
      = Token.flattenAll (Token.ofText offset t) ++ merge later := by
  -- An empty text has no token.
  unfold Token.ofText
  split
  · rename_i empty
    rw [empty]
    rfl
  · rename_i nonempty
    exact merge_ofText nonempty offset none

/-- The characters of a text are written as its token where nothing stands behind them. -/
theorem Flat.merge_ofText_alone (offset : Nat) (t : Text) :
    merge ((Piece.ofText offset t).map Piece.element)
      = Token.flattenAll (Token.ofText offset t) := by
  -- Nothing behind the characters is a special case of something that is no text.
  have elements := merge_ofText_tokens offset t noTextFirst_nil
  rwa [List.append_nil, merge, List.append_nil] at elements

namespace Template

/-- A source that reads as pieces with balanced tags is parsed as the tree of their elements. -/
theorem parse_of_reads {source : Text} {pair : Delimiters} {pieces : List Piece}
    (reads : Reads pair 0 source ⟨pieces, none⟩) (balanced : Balanced (Piece.tags pieces))
    {tokens : List Token}
    (whole : Token.flattenAll tokens = Flat.merge (Piece.flats pieces)) :
    parse source pair = .ok tokens := by
  have parsed : parse source pair = .ok (Template.tokens source pair) := by
    rw [parse, fault?_eq_none_iff.mpr ⟨pieces, reads, balanced⟩]
  obtain ⟨pieces', reads', -, whole'⟩ := flattenAll_of_parse parsed
  -- There is only one reading.
  cases (reads_iff.mp reads').trans (reads_iff.mp reads).symm
  rw [parsed, Token.flattenAll_injective (whole'.trans whole.symm)]

/-- A source without an opening delimiter is a text. -/
theorem parse_of_absent {source : Text} {pair : Delimiters} (absent : ¬ pair.opening <:+: source) :
    parse source pair = .ok (Token.ofText 0 source) := by
  -- The whole source is read as characters, which neither open nor close a section.
  refine parse_of_reads (.finished absent) ?_ ?_
  · rw [Piece.tags_ofText]
    exact .nil
  · rw [Piece.flats_ofText, Flat.merge_ofText_alone]

/-- A reference between two texts. -/
def around (margin later : Text) : Text :=
  margin ++ (Sigil.inclusion.written ['p'] {} ++ later)

/-- Blanks on a line are in front of what comes behind them as they are. -/
theorem ofPieces_ofText {margin : Text} (blank : margin.Blank) (offset : Nat) :
    LinePrefix.ofPieces (Piece.ofText offset margin) = ⟨margin, 0, false⟩ := by
  -- The induction is on the margin, blank by blank.
  induction margin generalizing offset with
  | nil => rfl
  | cons c margin ih =>
    obtain ⟨first, others⟩ := List.forall_mem_cons.mp blank
    have rest := ih others (offset + 1)
    simp only [LinePrefix.ofPieces, LinePrefix.mk.injEq] at rest ⊢
    obtain ⟨indentation, tags, text⟩ := rest
    -- A blank leaves itself, is no tag and does not show.
    simp [Piece.ofText, Piece.margin?, Piece.isTag, Piece.isVisible, first, indentation, text,
      Int.natCast_eq_zero.mp tags]

/-- A reference between blanks and a text without tags is read as it stands. -/
theorem reads_around {margin later : Text} (blank : margin.Blank)
    (absent : ¬ Delimiters.default.opening <:+: later) :
    ∃ tag : Tag, tag.sigil = .inclusion ∧ tag.body = ['p']
      ∧ Reads .default 0 (around margin later)
        ⟨Piece.ofText 0 margin ++ .tag tag :: Piece.ofText tag.stop later, none⟩ := by
  -- The name of the partial is plain, so that its tag reads as it is written.
  have fits : Node.Fits .inclusion ['p'] := by decide
  refine ⟨_, rfl, rfl, .chars (fun n early opens => ?_)
    (Node.reads_tag (by decide) fits {} (.finished absent))⟩
  -- A blank is no brace that could open a tag.
  obtain ⟨more, same⟩ := opens
  rw [List.drop_append_of_le_length (Nat.le_of_lt early), List.drop_eq_getElem_cons early] at same
  have brace := blank _ (List.getElem_mem early)
  rw [← (List.cons.inj same).1] at brace
  cases brace

/-- Only blank text is silent. -/
theorem all_isSilent_ofText (offset : Nat) (t : Text) :
    (Piece.ofText offset t).all Piece.isSilent = true ↔ t.Blank := by
  -- A character is silent if it is blank.
  induction t generalizing offset with
  | nil => exact ⟨fun _ => Text.blank_nil, fun _ => rfl⟩
  | cons c t ih =>
    rw [Piece.ofText, List.all_cons, Bool.and_eq_true, ih, Text.Blank, Text.Blank,
      List.forall_mem_cons]
    rfl

/-- The elements of a line with a reference behind a margin, with or without the text on it. -/
theorem lineFlats_around {margin : Text} (blank : margin.Blank) (start stop : Nat) (line : Text)
    (keepsText : Bool) :
    Piece.lineFlats keepsText {}
        (Piece.ofText 0 margin ++ .tag ⟨.inclusion, ['p'], start, stop⟩ :: Piece.ofText stop line)
      = (if keepsText then (Piece.ofText 0 margin).map Piece.element else [])
        ++ .leaf (.inclusion ['p'] ⟨start, stop⟩ ⟨margin, 0, false⟩)
        :: (if keepsText then (Piece.ofText stop line).map Piece.element else []) := by
  -- The text behind the reference is no part of what stands in front of it.
  have behind := Piece.lineFlats_ofText keepsText
    (((Piece.ofText 0 margin).foldl LinePrefix.extend {}).extend
      (.tag ⟨.inclusion, ['p'], start, stop⟩)) stop line []
  rw [List.append_nil, Piece.lineFlats, List.append_nil] at behind
  rw [Piece.lineFlats_ofText, Piece.lineFlats, behind, Tag.toFlat, LinePrefix.turned_foldl_extend,
    ofPieces_ofText blank]
  rfl

/-- A reference behind blanks stands alone on its line if nothing shows behind it. -/
theorem standalone_around {margin : Text} (blank : margin.Blank) (start stop : Nat) (line : Text) :
    Piece.standalone
        (Piece.ofText 0 margin ++ .tag ⟨.inclusion, ['p'], start, stop⟩ :: Piece.ofText stop line)
      = true ↔ line.Blank := by
  rw [Piece.standalone, List.any_append, List.any_cons, List.all_append, List.all_cons]
  -- The tag is on the line and shows nothing itself.
  change ((_ || (true || _)) && (_ && (true && _))) = true ↔ _
  simp only [Bool.true_or, Bool.or_true, Bool.true_and, Bool.and_eq_true, all_isSilent_ofText,
    blank, true_and]

/--
A reference behind a margin is parsed with this margin.

The margin itself and the rest of the line are kept only if something shows on the line.
-/
theorem parse_around {margin later : Text} (blank : margin.Blank) (single : '\n' ∉ margin)
    (absent : ¬ Delimiters.default.opening <:+: later) :
    ∃ (span : Span) (offset offset' : Nat),
      (later.firstLine.Blank → parse (around margin later) .default
        = .ok (.inclusion ['p'] span ⟨margin, 0, false⟩ :: Token.ofText offset later.behindLine))
      ∧ (¬ later.firstLine.Blank → parse (around margin later) .default
        = .ok (Token.ofText 0 margin
          ++ .inclusion ['p'] span ⟨margin, 0, false⟩ :: Token.ofText offset' later)) := by
  obtain ⟨⟨sigil, body, start, stop⟩, rfl, rfl, reads⟩ := reads_around blank absent
  -- A reference neither opens nor closes a section.
  have balanced : Balanced (Piece.tags (Piece.ofText 0 margin
      ++ .tag ⟨.inclusion, ['p'], start, stop⟩ :: Piece.ofText stop later)) := by
    rw [Piece.tags_append, Piece.tags_ofText, Piece.tags_tag, Piece.tags_ofText]
    exact .other rfl nofun .nil
  have goesOn : ∀ piece ∈ Piece.ofText 0 margin ++ [.tag ⟨.inclusion, ['p'], start, stop⟩],
      piece.endsLine = false := by
    rw [List.forall_mem_append, List.forall_mem_singleton]
    exact ⟨Piece.goesOn_ofText single 0, rfl⟩
  -- The reference is alone on its line as far as the text behind it allows.
  obtain ⟨line, whole, same, flats⟩ := Piece.flats_firstLine
    (List.append_ne_nil_of_right_ne_nil _ (List.cons_ne_nil _ [])) goesOn stop later
  rw [List.append_assoc, List.append_assoc, List.singleton_append, List.singleton_append,
    lineFlats_around blank] at flats
  have standalone := (standalone_around blank start stop line).trans same
  refine ⟨⟨start, stop⟩, stop + line.length, stop, fun alone => parse_of_reads reads balanced ?_,
    fun shows => parse_of_reads reads balanced ?_⟩
  · -- Only the reference and what stands behind its line are left.
    rw [flats, standalone.mpr alone, Bool.not_true, if_neg Bool.false_ne_true,
      if_neg Bool.false_ne_true, List.nil_append, List.singleton_append, Flat.merge_cons rfl,
      Flat.merge_ofText_alone]
    rfl
  · -- All text is kept, on either side of the reference.
    have apart : Flat.NoTextFirst (.leaf (.inclusion ['p'] ⟨start, stop⟩ ⟨margin, 0, false⟩)
        :: (Piece.ofText stop later).map Piece.element) := fun flat first =>
      Option.some.inj first ▸ rfl
    rw [flats, Bool.eq_false_iff.mpr (standalone.not.mpr shows), Bool.not_false, if_pos rfl,
      if_pos rfl, List.append_assoc, List.cons_append, ← List.map_append, ← Piece.ofText_append,
      ← whole, Flat.merge_ofText_tokens 0 margin apart, Flat.merge_cons rfl,
      Flat.merge_ofText_alone, Token.flattenAll_append]
    rfl

end Template

namespace Indentation

variable {t : Text}

/-- An indented text begins with its margin and its first line, if there is anything on that. -/
theorem prefix_indent {margin : Text} (pads : ∀ c ∈ margin, c = ' ' ∨ c = '\t')
    (nonempty : t.firstLine ≠ []) :
    margin ++ t.firstLine <+: indent t margin false := by
  -- A margin of spaces and tabs is kept as a whole.
  have kept : Indentation.margin margin = margin :=
    List.filter_eq_self.mpr fun c member => by simpa using pads c member
  rw [indent, kept]
  -- The first line is indented because there is something on it.
  dsimp only
  rw [Text.pieces_fst, if_neg Bool.false_ne_true, indentLine, if_neg nonempty, Text.join]
  exact List.prefix_append ..

/-- No tag is opened in an indented text if none is opened in the text. -/
theorem absent_indent (absent : ¬ Delimiters.default.opening <:+: t) (margin : Text)
    (continuesText : Bool) : ¬ Delimiters.default.opening <:+: indent t margin continuesText := by
  -- Neither a margin nor any break in a line makes a delimiter.
  have blank := blank_margin margin
  have solid : Delimiters.default.Solid := by decide
  rw [indent_eq]
  refine Text.absent_spread blank solid.opening Delimiters.default.opening_ne_nil absent ?_
  -- The first line has a margin, too, if it has any.
  split
  · exact Text.blank_nil
  · exact Text.blank_gap blank

end Indentation

/-- Parts of the output side by side are put together to their texts side by side. -/
theorem Chunk.joinAll_append {chunks others : List Chunk} {t t' : Text}
    (joined : joinAll chunks = some t) (joined' : joinAll others = some t') :
    joinAll (chunks ++ others) = some (t ++ t') := by
  -- A part that is no text would have kept the first parts from being put together.
  induction chunks generalizing t with
  | nil =>
    obtain rfl := Option.some.inj joined
    exact joined'
  | cons chunk chunks ih =>
    cases chunk with
    | literal first | value first =>
      obtain ⟨more, rest, rfl⟩ := Option.map_eq_some_iff.mp joined
      rw [List.cons_append, joinAll, ih rest, Option.map_some, List.append_assoc]
    | foreign => cases joined

/-- A step that writes a given text wherever plain data can be rendered. -/
abbrev WritesText (edits : Nat → Edits) (step : Render σ (List Chunk)) (t : Text) : Prop :=
  Succeeds edits step (Chunk.joinAll · = some t)

namespace WritesText

variable {edits : Nat → Edits} {host : Host σ} {nested : Nested σ} {scene : Scene} {t t' : Text}
  {tokens : List Token}

/-- What a row of tokens writes is what the first one writes and then what the others do. -/
theorem cons {token : Token} (writes : WritesText edits (Token.write host nested scene token) t)
    (writes' : WritesText edits (Token.writeAll host nested scene tokens) t') :
    WritesText edits (Token.writeAll host nested scene (token :: tokens)) (t ++ t') :=
  -- Both parts are joined to texts, and so they are joined together.
  .bind writes fun _ joined => .bind writes' fun _ joined' =>
    .pure (Chunk.joinAll_append joined joined')

/-- A text is written in front of what the tokens behind it write. -/
theorem text_append (offset : Nat) (t : Text)
    (writes : WritesText edits (Token.writeAll host nested scene tokens) t') :
    WritesText edits (Token.writeAll host nested scene (Token.ofText offset t ++ tokens))
      (t ++ t') := by
  -- An empty text has no token and writes nothing.
  unfold Token.ofText
  split
  · rename_i empty
    rwa [empty]
  · exact cons (.pure (by simp [Chunk.joinAll])) writes

/-- A text is written as it is. -/
theorem text (offset : Nat) (t : Text) :
    WritesText edits (Token.writeAll host nested scene (Token.ofText offset t)) t := by
  -- There is nothing behind it.
  have none : WritesText edits (Token.writeAll host nested scene []) [] := .pure rfl
  have alone := text_append offset t none
  rwa [List.append_nil, List.append_nil] at alone

/-- A template without tags that is included behind a margin writes its text with the margin. -/
theorem inclusion {entries : List (Value × Value)} {name source margin : Text} {depth : Nat}
    (partials : scene.partials = .mapping entries)
    (accepted : Template.delimitersOf (scene.config.delimiters.settled edits) = .ok .default)
    (known : Value.named? entries name = some (.text source)) (nonempty : margin ≠ [])
    (absent : ¬ Delimiters.default.opening <:+: source) (span : Span) :
    WritesText edits
      (Token.write host (.upTo host (depth + 1)) scene (.inclusion name span ⟨margin, 0, false⟩))
      (Indentation.indent source margin false) := by
  -- The partial is found as a text, and the margin is put in front of its lines.
  have template : (scene.template host (.text name) : Render σ Value) = pure (.text source) := by
    rw [Scene.template_of_mapping partials, known]
    rfl
  have indented : (Scene.indented host ⟨margin, 0, false⟩ (.text source) : Render σ Value)
      = pure (.text (Indentation.indent source margin false)) := by
    rw [Scene.indented, if_pos ⟨rfl, nonempty⟩]
    rfl
  rw [Token.write, Scene.writeInclusion, template, pure_bind]
  change WritesText edits (Scene.indented host ⟨margin, 0, false⟩ (.text source) >>= _) _
  rw [indented, pure_bind]
  -- The indented template has no tags either.
  have parses := Template.parse_of_absent (Indentation.absent_indent absent margin false)
  refine .bind (.request parses accepted) fun found same => ?_
  rw [same]
  exact .inTemplate _ (text 0 _)

end WritesText

/-- What tokens write that parse from a template is the output of rendering it. -/
theorem Engine.renderUpTo_of_writes {host : Host σ} {depth : Nat}
    {source output : Text} {pair : Delimiters} {tokens : List Token} {view partials : Value}
    {setting : Setting} {config : Config} {s configured : Session σ} (sound : s.Sound)
    (settles : Config.ofSetting setting s = some (.ok config, configured))
    (accepted : Template.delimitersOf (config.delimiters.settled s.edits) = .ok pair)
    (parses : Template.parse source pair = .ok tokens)
    (writes : WritesText s.edits (Token.writeAll host (.upTo host depth)
      ⟨⟨view, []⟩, partials, config, some source⟩ tokens) output) :
    ∃ after, renderUpTo (depth + 1) host (.text source) (.value view) partials setting s
      = some (.ok output, after) := by
  -- To render the source is to parse it, to write its tokens and to join what they wrote.
  have renders : Succeeds s.edits ((Nested.upTo host (depth + 1)).render
      ⟨⟨view, []⟩, partials, config, none⟩ (.text source)) (· = output) := by
    refine .bind (.request parses accepted) fun found same => ?_
    rw [same]
    have joins : Succeeds s.edits (Scene.render host (.upTo host depth)
        ⟨⟨view, []⟩, partials, config, some source⟩ tokens) (· = output) :=
      .bind writes fun chunks joined => .ofExcept (by rw [Chunk.output, joined]; rfl)
    exact .bind (.inTemplate source joins) fun found same =>
      .bind (.account _) fun _ _ => .pure same
  -- To settle the configuration leaves the cache and the shared values alone.
  have consulted := Consults.ofSetting setting s _ _ settles
  obtain ⟨_, after, ran, -, -, -, concludes⟩ :=
    renders.inNewScope_of_sound consulted.edits (sound.of_cache_eq consulted.cache)
  obtain ⟨_, rfl, rfl⟩ := concludes.exists_ok trivial
  refine ⟨after, ?_⟩
  rw [renderUpTo, Render.bind_apply, settles]
  exact ran

/--
A template behind a margin gives its first line behind one margin if nothing that shows follows the
reference on its line.

Otherwise the margin stands in front of it twice: it is kept as text of the line, and the first line
of the template is indented as well.
-/
theorem Engine.renderUpTo_around (host : Host σ) (depth : Nat) {margin included later : Text}
    (nonempty : margin ≠ []) (pads : ∀ c ∈ margin, c = ' ' ∨ c = '\t')
    (begins : ∃ c ∈ included.head?, Text.isBlank c = false)
    (tagless : ¬ ['\x7b', '\x7b'] <:+: included) (tagless' : ¬ ['\x7b', '\x7b'] <:+: later)
    (view : Value) {entries : List (Value × Value)}
    (known : Value.named? entries ['p'] = some (.text included)) {setting : Setting}
    {config : Config} {s configured : Session σ} (sound : s.Sound)
    (settles : Config.ofSetting setting s = some (.ok config, configured))
    (accepted : Template.delimitersOf (config.delimiters.settled s.edits) = .ok .default) :
    ∃ output after,
      renderUpTo (depth + 2) host (.text (margin ++ "\x7b\x7b>p\x7d\x7d".toList ++ later))
          (.value view) (.mapping entries) setting s = some (.ok output, after)
        ∧ (later.firstLine.Blank →
          output = Indentation.indent included margin false ++ later.behindLine)
        ∧ (¬ later.firstLine.Blank →
          output = margin ++ (Indentation.indent included margin false ++ later))
        ∧ (margin ++ included.firstLine <+: output ↔ later.firstLine.Blank) := by
  have blank : margin.Blank := fun c member => by rcases pads c member with rfl | rfl <;> decide
  have single : '\n' ∉ margin := fun member => by simpa using pads _ member
  obtain ⟨c, rest, rfl, visible⟩ : ∃ c rest, included = c :: rest ∧ Text.isBlank c = false := by
    obtain ⟨c, first, visible⟩ := begins
    obtain ⟨rest, same⟩ := List.head?_eq_some_iff.mp first
    exact ⟨c, rest, same, visible⟩
  have first : Text.firstLine (c :: rest) = c :: Text.firstLine rest := by
    have goesOn : c ≠ '\n' := by
      rintro rfl
      cases visible
    simp [Text.firstLine, goesOn]
  -- The text that is included begins with the margin, and then with what shows.
  have begun : margin ++ Text.firstLine (c :: rest)
      <+: Indentation.indent (c :: rest) margin false :=
    Indentation.prefix_indent pads (by rw [first]; exact List.cons_ne_nil _ _)
  have shape : margin ++ "\x7b\x7b>p\x7d\x7d".toList ++ later = Template.around margin later :=
    List.append_assoc ..
  obtain ⟨span, offset, offset', alone, shows⟩ := Template.parse_around blank single tagless'
  have includes (source : Option Text) : WritesText s.edits
      (Token.write host (.upTo host (depth + 1)) ⟨⟨view, []⟩, .mapping entries, config, source⟩
        (.inclusion ['p'] span ⟨margin, 0, false⟩)) _ :=
    .inclusion rfl accepted known nonempty tagless span
  rw [shape]
  by_cases followed : later.firstLine.Blank
  · -- Nothing else shows on the line, so that it is stripped of its margin.
    obtain ⟨after, ran⟩ := Engine.renderUpTo_of_writes sound settles accepted (alone followed)
      (.cons (includes _) (.text offset later.behindLine))
    refine ⟨_, after, ran, fun _ => rfl, fun shows => absurd followed shows, ?_⟩
    exact iff_of_true (begun.trans (List.prefix_append ..)) followed
  · -- The margin is kept as a text, and comes in front of the one of the template.
    obtain ⟨after, ran⟩ := Engine.renderUpTo_of_writes sound settles accepted (shows followed)
      (.text_append 0 margin (.cons (includes _) (.text offset' later)))
    refine ⟨_, after, ran, fun alone => absurd alone followed, fun _ => rfl, ?_⟩
    refine iff_of_false (fun once => ?_) followed
    -- Behind the first margin stands a blank of the second one, and no character that shows.
    obtain ⟨d, pad, rfl⟩ := List.exists_cons_of_ne_nil nonempty
    obtain ⟨behind, same⟩ := begun
    rw [List.prefix_append_right_inj, ← same, first] at once
    obtain ⟨_, once⟩ := once
    have blank := blank d List.mem_cons_self
    rw [← (List.cons.inj once).1, visible] at blank
    cases blank

/-- Two spaces come out as four in front of a template that text follows on the line. -/
theorem Engine.renderUpTo_around_twice :
    let host : Host Unit := ⟨fun _ _ state => (.ok .null, state), fun _ _ state =>
      .value .null state⟩
    ∃ output after, renderUpTo 2 host (.text ("  \x7b\x7b>p\x7d\x7d x\n".toList)) (.value .null)
        (.mapping [(.text ['p'], .text ['a', '\n', 'b'])]) (.value .null) { host := () }
          = some (.ok output, after)
      ∧ output = "    a\n  b x\n".toList ∧ ¬ [' ', ' ', 'a'] <+: output := by
  intro host
  -- With an empty cache, the general statement applies to the entry by that name.
  have sound : ({ host := () } : Session Unit).Sound := by
    rintro _ ⟨⟩
    exact Cache.sound_of_entries_nil rfl
  have known : Value.named? [(.text ['p'], .text ['a', '\n', 'b'])] ['p']
      = some (.text ['a', '\n', 'b']) := rfl
  have settles : Config.ofSetting (.value .null) ({ host := () } : Session Unit)
      = some (.ok {}, { host := () }) := rfl
  -- Something shows behind the reference on its line, which brings in the margin once more.
  have shows : ¬ (Text.firstLine [' ', 'x', '\n']).Blank := by decide
  obtain ⟨output, after, ran, -, twice, once⟩ := renderUpTo_around host 0
    (by decide : [' ', ' '] ≠ []) (by simp) ⟨'a', rfl, rfl⟩ (by decide)
    (by decide : ¬ _ <:+: [' ', 'x', '\n']) .null known sound settles rfl
  exact ⟨output, after, ran, twice shows, fun starts => shows (once.mp starts)⟩

end Mustache
