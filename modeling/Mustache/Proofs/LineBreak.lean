import Mustache.Proofs.Shifted
import Mustache.Proofs.Solid

/-!
Parsing is compositional at line breaks.

A template that ends with a line break leaves nothing behind for what follows but its delimiters.
-/

namespace Mustache

namespace Piece

/-- A piece that ends a line divides the lines before it from those behind it. -/
theorem lines_append {last : Piece} (ends : last.endsLine = true) (before later : List Piece) :
    lines (before ++ last :: later) = lines (before ++ [last]) ++ lines later := by
  -- A piece in front that ends a line does so with or without what follows.
  induction before with
  | nil => rw [List.nil_append, List.nil_append, lines, lines, if_pos ends, if_pos ends]; rfl
  | cons piece before ih =>
    rw [List.cons_append, List.cons_append, lines, lines, ih]
    split
    · rfl
    · -- There is a line for the piece to stand in front of.
      rcases lines_cases (before ++ [last]) with empty | ⟨line, others, -, split, -⟩
      · exact absurd (List.append_eq_nil_iff.mp empty).2 (List.cons_ne_nil _ _)
      · rw [split, List.cons_append, List.cons_append]

/-- The elements before a piece that ends a line are apart from those behind it. -/
theorem flats_append {last : Piece} (ends : last.endsLine = true) (before later : List Piece) :
    flats (before ++ last :: later) = flats (before ++ [last]) ++ flats later := by
  -- Each line contributes its own elements.
  rw [flats, lines_append ends, List.flatMap_append]
  rfl

end Piece

/-- The last character of a text that ends with a blank is the last piece of it. -/
theorem Reads.ends_with {pair : Delimiters} {offset : Nat} {text : Text} {reading : Reading}
    (reads : Reads pair offset text reading) (complete : reading.fault = none) (solid : pair.Solid)
    {c : Char} (ended : text.getLast? = some c) (blank : Text.isBlank c = true) :
    ∃ before place, reading.pieces = before ++ [.char c place] := by
  -- The induction is on the reading up to the last tag, behind which the character stands.
  induction reads with
  | finished _ =>
    obtain ⟨front, rfl⟩ := List.getLast?_eq_some_iff.mp ended
    exact ⟨_, _, Piece.ofText_append ..⟩
  | unclosed _ _ => cases complete
  | invalid _ _ _ => cases complete
  | @tag pair next offset stop before behind body rest sigil reading opened tag follows _ _ ih =>
    have nonempty : behind ≠ [] := List.ne_nil_of_length_pos (Nat.zero_lt_of_lt tag.length_lt)
    rw [List.getLast?_append_of_ne_nil _ nonempty] at ended
    -- The character stands behind every tag.
    obtain ⟨before', place, same⟩ :=
      ih complete (follows.solid solid) (solid.getLast?_rest tag ended blank)
    refine ⟨Piece.ofText offset before
      ++ .tag ⟨sigil, body, offset + before.length, stop⟩ :: before',
      place, ?_⟩
    rw [same, List.append_assoc, List.cons_append]

namespace Flat

/-- Two texts that follow each other may be written as one first. -/
theorem merge_text_text (value more : Text) (span later : Span) (rest : List Flat) :
    merge (.leaf (.text value span) :: .leaf (.text more later) :: rest)
      = merge (.leaf (.text (value ++ more) ⟨span.start, later.stop⟩) :: rest) := by
  rcases merge_text_cases more later rest with ⟨_, _, _, same, -, whole⟩ | ⟨none, whole⟩
  · -- All three become one.
    rw [merge, whole, merge, same]
    simp only [List.append_assoc]
  · rw [merge, whole, merge_text none]

/-- What stands in front may be put together with what follows before or after that is merged. -/
theorem merge_append_congr {later later' : List Flat} (same : merge later = merge later')
    (front : List Flat) : merge (front ++ later) = merge (front ++ later') := by
  -- A text in front looks only at what the rest has been merged to.
  induction front with
  | nil => exact same
  | cons flat front ih =>
    cases text : flat.isText with
    | false => rw [List.cons_append, List.cons_append, merge_cons text, merge_cons text, ih]
    | true =>
      obtain ⟨value, span, rfl⟩ := eq_of_isText text
      rw [List.cons_append, List.cons_append, merge, merge, ih]

/-- Neighbouring texts of the front may be written as one before what follows is put behind them. -/
theorem merge_merge_append (front later : List Flat) :
    merge (merge front ++ later) = merge (front ++ later) := by
  -- An element that is no text keeps both sides of it apart.
  induction front with
  | nil => rfl
  | cons flat front ih =>
    cases text : flat.isText with
    | false =>
      rw [merge_cons text, List.cons_append, merge_cons text, ih, List.cons_append, merge_cons text]
    | true =>
      obtain ⟨value, span, rfl⟩ := eq_of_isText text
      have behind : merge (.leaf (.text value span) :: (merge front ++ later))
          = merge (.leaf (.text value span) :: (front ++ later)) :=
        merge_append_congr ih [.leaf (.text value span)]
      rcases merge_text_cases value span front with ⟨_, _, _, same, -, whole⟩ | ⟨-, whole⟩
      · -- The next text of the front is put behind this one.
        rw [same, List.cons_append, merge_text_text] at behind
        rw [whole, List.cons_append, behind, List.cons_append]
      · rw [whole, List.cons_append, behind, List.cons_append]

/-- Where no two texts follow each other, none are written as one. -/
theorem merge_eq_self {flats : List Flat}
    (apart : flats.IsChain fun left right => ¬ (left.isText = true ∧ right.isText = true)) :
    merge flats = flats := by
  -- The induction is on the elements; a text and the next one would have to be neighbours.
  induction flats with
  | nil => rfl
  | cons flat rest ih =>
    obtain ⟨first, others⟩ := List.isChain_cons.mp apart
    cases text : flat.isText with
    | false => rw [merge_cons text, ih others]
    | true =>
      obtain ⟨value, span, rfl⟩ := eq_of_isText text
      -- The next element is no text.
      have none : NoTextFirst rest := fun next member =>
        Bool.eq_false_iff.mpr fun isText => first next member ⟨text, isText⟩
      rw [merge_text none.merge, ih others]

/-- Rows that are merged by themselves are put side by side and merged again. -/
theorem merge_append (front later : List Flat) :
    merge (merge front ++ merge later) = merge (front ++ later) := by
  -- A merged row has no two texts side by side, so that merging it again does nothing.
  rw [merge_merge_append]
  exact merge_append_congr (merge_eq_self (isChain_merge later)) front

end Flat

namespace Token

/-- Tokens side by side, where two texts that meet become one. -/
def join (front later : List Token) : List Token :=
  match front.getLast?, later with
  | some (.text value span), .text more span' :: rest =>
    front.dropLast ++ .text (value ++ more) ⟨span.start, span'.stop⟩ :: rest
  | _, _ => front ++ later

/-- A text is the last element of tokens if it is the last token. -/
theorem getLast?_of_flattenAll {tokens : List Token} {value : Text} {span : Span}
    (last : (flattenAll tokens).getLast? = some (.leaf (.text value span))) :
    tokens.getLast? = some (.text value span) := by
  rcases List.eq_nil_or_concat tokens with rfl | ⟨front, token, rfl⟩
  · cases last
  · rw [List.concat_eq_append, flattenAll_append, flattenAll_singleton] at last
    rw [List.concat_eq_append, List.getLast?_concat]
    -- The last element of a section is its closing tag.
    cases token with
    | block inverted name span children closeStart =>
      rw [flatten, ← List.append_assoc, List.getLast?_concat] at last
      cases last
    -- Any other token is an element of its own, the last one.
    | _ =>
      rw [flatten, List.getLast?_concat] at last
      · exact congrArg some (Flat.leaf.inj (Option.some.inj last))
      · nofun

/-- A text is the first element of tokens if it is the first token. -/
theorem head?_of_flattenAll {tokens : List Token} {value : Text} {span : Span}
    (first : (flattenAll tokens).head? = some (.leaf (.text value span))) :
    tokens.head? = some (.text value span) := by
  cases tokens with
  | nil => cases first
  | cons token rest =>
    -- The first element of a section is its opening tag.
    cases token with
    | block inverted name span children closeStart => cases first
    | _ => exact congrArg some (Flat.leaf.inj (Option.some.inj first))

/-- The elements of tokens side by side, where each of the two rows is merged already. -/
theorem flattenAll_join {front later : List Token}
    (merged : Flat.merge (flattenAll front) = flattenAll front)
    (merged' : Flat.merge (flattenAll later) = flattenAll later) :
    flattenAll (join front later) = Flat.merge (flattenAll front ++ flattenAll later) := by
  have chain := Flat.isChain_merge (flattenAll front)
  have chain' := Flat.isChain_merge (flattenAll later)
  rw [merged] at chain
  rw [merged'] at chain'
  unfold join
  split
  · rename_i value span more span' rest last
    obtain ⟨front, rfl⟩ := List.getLast?_eq_some_iff.mp last
    rw [flattenAll_append] at chain
    have whole : flattenAll (front ++ [.text value span]) ++ flattenAll (.text more span' :: rest)
        = flattenAll front
          ++ .leaf (.text value span) :: .leaf (.text more span') :: flattenAll rest := by
      simp [flattenAll_append, flattenAll, flatten]
    rw [List.dropLast_concat, flattenAll_append, whole,
      Flat.merge_append_congr (Flat.merge_text_text value more span span' (flattenAll rest))]
    -- The text that the two become stands between the same neighbours.
    refine (Flat.merge_eq_self (List.isChain_append.mpr ⟨chain.left_of_append, ?_, ?_⟩)).symm
    · exact List.isChain_cons.mpr ⟨(List.isChain_cons.mp chain').1, (List.isChain_cons.mp chain').2⟩
    · intro left final right first
      obtain rfl := Option.some.inj first
      exact (List.isChain_append.mp chain).2.2 left final (.leaf (.text value span)) rfl
  · rename_i apart
    rw [flattenAll_append]
    -- Two texts that met would have been the last token and the first one.
    refine (Flat.merge_eq_self (List.isChain_append.mpr ⟨chain, chain', ?_⟩)).symm
    rintro left final right first ⟨text, text'⟩
    obtain ⟨value, span, rfl⟩ := Flat.eq_of_isText text
    obtain ⟨more, span', rfl⟩ := Flat.eq_of_isText text'
    obtain ⟨rest, same⟩ := List.head?_eq_some_iff.mp (head?_of_flattenAll first)
    exact apart value span more span' rest (getLast?_of_flattenAll final) same

end Token

namespace Template

/-- The delimiters in use behind a template: those that the last change in it makes. -/
theorem delimitersAfter_eq {source : Text} {pair : Delimiters} (sound : fault? source pair = none) :
    delimitersAfter source pair
      = pair.last ((Reading.ofSource source pair).pieces.filterMap switch?) := by
  rw [delimitersAfter, switches, sound, Delimiters.last]
  -- There is a last change or none.
  cases ((Reading.ofSource source pair).pieces.filterMap switch?).getLast? <;> rfl

variable {front : Text} {pair : Delimiters}

/-- A text is read behind a template that ends with a line break as by itself, only further on. -/
theorem reading_append (solid : pair.Solid) (sound : fault? front pair = none)
    (ended : front.getLast? = some '\n') (later : Text) :
    let more := (Reading.ofSource later (delimitersAfter front pair)).moved front.length
    Reading.ofSource (front ++ later) pair
      = ⟨(Reading.ofSource front pair).pieces ++ more.pieces, more.fault⟩ := by
  intro more
  have reads : Reads pair 0 front (Reading.ofSource front pair) := reads_iff.mpr rfl
  have reads' : Reads (delimitersAfter front pair) 0 later
      (Reading.ofSource later (delimitersAfter front pair)) := reads_iff.mpr rfl
  -- The second reading begins where the first one ends, with the delimiters left by that.
  have moved := reads'.moved front.length
  rw [delimitersAfter_eq sound] at moved
  have whole := reads.append (complete_of_fault? sound).1 solid ended (by decide) moved
  rw [← delimitersAfter_eq sound] at whole
  -- There is only one reading of the two together.
  exact (reads_iff.mp whole).symm

/-- Behind a template that ends with a line break a text has its own first fault, further on. -/
theorem fault?_append (solid : pair.Solid) (sound : fault? front pair = none)
    (ended : front.getLast? = some '\n') (later : Text) :
    fault? (front ++ later) pair
      = (fault? later (delimitersAfter front pair)).map (Fault.moved front.length) := by
  -- The sections of the template in front are closed, so that none is open behind it.
  have balanced := (Piece.openAfter_eq_ok_iff.mp (complete_of_fault? sound).2).balanced
  have opened := Piece.openAfter_moved front.length []
    (Reading.ofSource later (delimitersAfter front pair)).pieces
  rw [List.map_nil] at opened
  rw [fault?, reading_append solid sound ended later, Piece.openAfter_append balanced,
    Reading.moved, opened, fault?]
  generalize Reading.ofSource later (delimitersAfter front pair) = reading
  cases Piece.openAfter [] reading.pieces with
  | error fault => rfl
  | ok stack =>
    -- An open section shows at the end of both.
    have length : (front ++ later).length = later.length + front.length := by
      rw [List.length_append, Nat.add_comm]
    cases reading.fault with
    | some fault => rfl
    | none =>
      cases stack with
      | nil => rfl
      | cons innermost outer =>
        rw [length]
        rfl

/-- Behind a template that ends with a line break the elements of a text come behind those of it. -/
theorem flats_append (solid : pair.Solid) (sound : fault? front pair = none)
    (ended : front.getLast? = some '\n') (later : Text) :
    Piece.flats (Reading.ofSource (front ++ later) pair).pieces
      = Piece.flats (Reading.ofSource front pair).pieces
        ++ (Piece.flats (Reading.ofSource later (delimitersAfter front pair)).pieces).map
          (Flat.shifted front.length) := by
  have reads : Reads pair 0 front (Reading.ofSource front pair) := reads_iff.mpr rfl
  obtain ⟨before, place, last⟩ :=
    reads.ends_with (complete_of_fault? sound).1 solid ended (by decide)
  -- The line break is the last piece of the template.
  rw [reading_append solid sound ended later, last, List.append_assoc, List.singleton_append,
    Piece.flats_append rfl, Reading.moved, Piece.flats_moved]

/-- The elements of a parsed tree are merged. -/
theorem merge_flattenAll_of_parse {source : Text} {pair : Delimiters} {tokens : List Token}
    (parsed : parse source pair = .ok tokens) :
    Flat.merge (Token.flattenAll tokens) = Token.flattenAll tokens := by
  -- The elements are what merging the kept ones gives, which leaves nothing to merge.
  obtain ⟨pieces, -, -, whole⟩ := flattenAll_of_parse parsed
  rw [whole]
  exact Flat.merge_eq_self (Flat.isChain_merge _)

/--
What follows a template that ends with a line break is parsed as by itself, only further on.

It is parsed with the delimiters that the template leaves, and its tokens come behind those of the
template, where two texts that meet become one. If something is wrong with it, the same is wrong with
the two together.
-/
theorem parse_append {tokens : List Token} (solid : pair.Solid)
    (parsed : parse front pair = .ok tokens) (ended : front.getLast? = some '\n') (later : Text) :
    (∀ more, parse later (delimitersAfter front pair) = .ok more →
        parse (front ++ later) pair = .ok (Token.join tokens (Token.shiftedAll front.length more)))
      ∧ ∀ fault, parse later (delimitersAfter front pair) = .error fault →
        parse (front ++ later) pair = .error (fault.moved front.length)
          ∧ ((fault.moved front.length).toError (front ++ later)).offset
            = some ((fault.offset + front.length : Nat) : Int) := by
  obtain ⟨sound, -⟩ := parse_eq_ok parsed
  have faults := fault?_append solid sound ended later
  constructor
  · intro more parsed'
    rw [(parse_eq_ok parsed').1, Option.map_none] at faults
    have whole : parse (front ++ later) pair = .ok (Template.tokens (front ++ later) pair) := by
      rw [parse, faults]
    rw [whole]
    -- Trees with the same elements are the same.
    refine congrArg Except.ok (Token.flattenAll_injective ?_)
    obtain ⟨pieces, reads, -, elements⟩ := flattenAll_of_parse parsed
    obtain ⟨pieces', reads', -, elements'⟩ := flattenAll_of_parse parsed'
    obtain ⟨pieces'', reads'', -, elements''⟩ := flattenAll_of_parse whole
    have same := flats_append solid sound ended later
    rw [← reads_iff.mp reads, ← reads_iff.mp reads', ← reads_iff.mp reads''] at same
    have shifted := Token.flattenAll_shiftedAll front.length more
    have merged : Flat.merge (Token.flattenAll (Token.shiftedAll front.length more))
        = Token.flattenAll (Token.shiftedAll front.length more) := by
      rw [shifted, Flat.merge_shifted, merge_flattenAll_of_parse parsed']
    -- Both trees have the elements of the two texts one after the other.
    rw [elements'', same, Token.flattenAll_join (merge_flattenAll_of_parse parsed) merged, shifted,
      elements, elements', ← Flat.merge_shifted, Flat.merge_append]
  · intro fault failed
    -- Only a fault of the second text is left to report, moved behind the first.
    have found : fault? later (delimitersAfter front pair) = some fault := by
      rw [parse] at failed
      split at failed
      · rename_i same
        rw [same, Except.error.inj failed]
      · cases failed
    rw [found, Option.map_some] at faults
    refine ⟨by rw [parse, faults], ?_⟩
    cases fault <;> rfl

/-- Behind a change of delimiters two texts meet, and an open section is reported further on. -/
theorem parse_append_switched :
    let bars : Delimiters := ⟨['|'], ['|'], by decide, by decide⟩
    let front : Text := "\x7b\x7b=| |=\x7d\x7d\n|a| b\n".toList
    let tokens : List Token := [.switch ['|', ' ', '|'] ⟨0, 9⟩, .variable true ['a'] ⟨10, 13⟩,
      .text [' ', 'b', '\n'] ⟨13, 16⟩]
    Delimiters.default.Solid ∧ parse front .default = .ok tokens ∧ front.getLast? = some '\n'
      ∧ delimitersAfter front .default = bars
      ∧ parse (front ++ ['c', '|', 'd', '|']) .default
        = .ok [.switch ['|', ' ', '|'] ⟨0, 9⟩, .variable true ['a'] ⟨10, 13⟩,
          .text [' ', 'b', '\n', 'c'] ⟨13, 17⟩, .variable true ['d'] ⟨17, 20⟩]
      ∧ parse (front ++ ['|', '#', 's', '|']) .default = .error (.unclosedSection ['s'] 20) := by
  intro bars front tokens
  have solid : Delimiters.default.Solid := by decide
  have parsed : parse front .default = .ok tokens := by decide +kernel
  have ended : front.getLast? = some '\n' := by decide +kernel
  have leaves : delimitersAfter front .default = bars := by decide +kernel
  have first : parse ['c', '|', 'd', '|'] bars
      = .ok [.text ['c'] ⟨0, 1⟩, .variable true ['d'] ⟨1, 4⟩] := by decide +kernel
  have second : parse ['|', '#', 's', '|'] bars = .error (.unclosedSection ['s'] 4) := by
    decide +kernel
  -- The second text is read with the new delimiters, on its own and behind the first.
  refine ⟨solid, parsed, ended, leaves, ?_, ?_⟩
  · -- Two tokens stand side by side behind the tag.
    rw [(parse_append solid parsed ended ['c', '|', 'd', '|']).1 _ (leaves ▸ first)]
    rfl
  · -- The end is further on by the length of the front.
    rw [((parse_append solid parsed ended ['|', '#', 's', '|']).2 _ (leaves ▸ second)).1]
    rfl

end Template

end Mustache
