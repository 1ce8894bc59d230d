import Mustache.Proofs.Spread

/-!
Tags of a text whose lines get a margin.

Each of them is a tag of the text without margins, whose body has margins of its own.
-/

namespace Mustache

open Text (gap spread spread_append)

section Tags

variable {margin literal text before pad after later : Text} {pair : Delimiters}

/-- A front of a text is no longer than any longer front, both with the margins behind them. -/
theorem Text.length_spread_le {front behind front' behind' : Text}
    (same : front ++ behind = front' ++ behind') (shorter : front.length ≤ front'.length) :
    (spread margin front ++ gap margin front behind).length
      ≤ (spread margin front' ++ gap margin front' behind').length := by
  -- The longer front is the shorter one and something between the two ends.
  obtain ⟨between, rfl, rfl⟩ :
      ∃ between, front' = front ++ between ∧ behind = between ++ behind' := by
    rcases List.append_eq_append_iff.mp same with ⟨between, whole, rest⟩ | ⟨between, whole, rest⟩
    · exact ⟨between, whole, rest⟩
    · -- The longer front is no longer than the shorter one.
      have empty : between = [] := by
        rw [whole, List.length_append] at shorter
        exact List.length_eq_zero_iff.mp (by omega)
      subst empty
      exact ⟨[], by simpa using whole.symm, by simpa using rest.symm⟩
  cases between with
  | nil => simp
  | cons c between =>
    have first : gap margin front (c :: between ++ behind') = gap margin front (c :: between) :=
      Text.gap_congr rfl
    rw [first, spread_append]
    simp only [List.length_append]
    omega

/-- A text without blanks in front of another one has no margin, and none is behind it. -/
theorem Text.spread_solid_append (solid : ∀ c ∈ literal, Text.isBlank c = false) (later : Text) :
    spread margin (literal ++ later) = literal ++ spread margin later := by
  -- A margin stands behind a line break only, which is a blank.
  have none : gap margin literal later = [] :=
    Text.gap_of_solid fun c last => solid c (List.mem_of_getLast? last)
  rw [spread_append, Text.spread_solid solid, none, List.nil_append]

/-- A text without blanks does not begin in blanks. -/
theorem Text.length_le_of_stands {n : Nat} (blank : pad.Blank)
    (solid : ∀ c ∈ literal, Text.isBlank c = false) (nonempty : literal ≠ [])
    (stands : literal <+: (pad ++ later).drop n) : pad.length ≤ n := by
  -- A place among the blanks is the place of a blank.
  refine Nat.le_of_not_lt fun early => ?_
  obtain ⟨c, others, rfl⟩ := List.exists_cons_of_ne_nil nonempty
  rw [List.drop_append_of_le_length (Nat.le_of_lt early), List.drop_eq_getElem_cons early] at stands
  -- The first character would be one of the blanks.
  obtain ⟨rfl, -⟩ := List.cons_prefix_cons.mp stands
  have hidden := blank _ (List.getElem_mem early)
  rw [solid _ List.mem_cons_self] at hidden
  cases hidden

/-- A place where a text without blanks begins with margins is one where it does without them. -/
theorem Text.stands_of_spread {n : Nat} (blank : margin.Blank)
    (solid : ∀ c ∈ literal, Text.isBlank c = false) (nonempty : literal ≠ [])
    (stands : literal <+: (spread margin text).drop n) :
    ∃ front behind, text = front ++ (literal ++ behind)
      ∧ n = (spread margin front ++ gap margin front (literal ++ behind)).length := by
  obtain ⟨rest, there⟩ := stands
  have whole : spread margin text = (spread margin text).take n ++ (literal ++ rest) := by
    rw [there, List.take_append_drop]
  obtain ⟨front, behind, rfl, same⟩ := Text.occurs_of_spread blank solid nonempty whole
  refine ⟨front, behind, rfl, ?_⟩
  -- The margin behind the front only depends on how the literal begins.
  have first : gap margin front (literal ++ behind) = gap margin front literal := by
    obtain ⟨c, others, rfl⟩ := List.exists_cons_of_ne_nil nonempty
    exact Text.gap_congr rfl
  -- The literal is not empty, so that the place is not past the end.
  have inside : n < (spread margin (front ++ (literal ++ behind))).length := by
    refine Nat.lt_of_not_le fun past => nonempty ?_
    rw [List.drop_eq_nil_of_le past] at there
    exact (List.append_eq_nil_iff.mp there).1
  rw [first, ← same, List.length_take]
  omega

/-- A text without blanks begins nowhere in front of a place if it did not without margins. -/
theorem Text.apart_spread (blank : margin.Blank) (solid : ∀ c ∈ literal, Text.isBlank c = false)
    (nonempty : literal ≠ [])
    (apart : ∀ n < before.length, ¬ literal <+: (before ++ later).drop n) :
    ∀ n < (spread margin before ++ gap margin before later).length,
      ¬ literal <+: (spread margin (before ++ later)).drop n := by
  intro n early stands
  -- A place with margins is one without them, where the literal stands as well.
  obtain ⟨front, behind, same, rfl⟩ := Text.stands_of_spread blank solid nonempty stands
  -- The place without margins would be in front, too.
  have shorter : front.length < before.length := by
    refine Nat.lt_of_not_le fun longer => ?_
    have long : (spread margin before ++ gap margin before later).length ≤ _ :=
      Text.length_spread_le same longer
    omega
  refine apart _ shorter ?_
  rw [same, List.drop_left]
  exact List.prefix_append literal behind

/-- A literal without blanks first begins where it did without margins. -/
theorem FirstAt.margins (blank : margin.Blank) (solid : ∀ c ∈ literal, Text.isBlank c = false)
    (nonempty : literal ≠ []) (found : FirstAt literal before later) {lead : Text}
    (lead_blank : lead.Blank) :
    FirstAt literal (lead ++ (spread margin before ++ gap margin before later))
      (spread margin later) where
  here := by
    obtain ⟨behind, rfl⟩ := found.here
    rw [Text.spread_solid_append solid]
    exact List.prefix_append ..
  first := by
    intro n early stands
    rw [List.append_assoc] at stands
    -- The literal begins behind the blanks in front, for none of its characters is one.
    have passed := Text.length_le_of_stands lead_blank solid nonempty stands
    rw [List.drop_append, List.drop_eq_nil_of_le passed, List.nil_append, List.append_assoc,
      ← spread_append] at stands
    rw [List.length_append] at early
    -- A place before it would have been one without margins as well.
    exact Text.apart_spread blank solid nonempty found.first _ (by omega) stands

/-- A cut at a literal without blanks is one with margins, whose parts have margins of their own. -/
theorem Cut.margins (blank : margin.Blank) (solid : ∀ c ∈ literal, Text.isBlank c = false)
    (nonempty : literal ≠ []) (cut : Cut literal text before pad after) :
    ∃ pad', Cut literal (spread margin text) (spread margin before) pad' (spread margin after) := by
  have behind : spread margin (literal ++ after) = literal ++ spread margin after :=
    Text.spread_solid_append solid after
  -- Blanks in front of the literal get more of them, and the text in front ends as before.
  have none : gap margin before (pad ++ (literal ++ after)) = [] := Text.gap_of_solid cut.tight
  have whole : spread margin text = spread margin before
      ++ ((spread margin pad ++ gap margin pad (literal ++ after))
        ++ (literal ++ spread margin after)) := by
    rw [cut.whole, spread_append, none, List.nil_append, spread_append, behind, List.append_assoc]
  have padding : (spread margin pad ++ gap margin pad (literal ++ after)).Blank := by
    rw [Text.blank_append]
    exact ⟨Text.blank_spread blank cut.blank, Text.blank_gap blank⟩
  refine ⟨_, whole, padding, ?_, ?_, ?_⟩
  · rw [Text.getLast?_spread]
    exact cut.tight
  · -- Nothing stands earlier than it did, as margins are blank and the literal is not.
    have apart := cut.first
    rw [cut.whole] at apart
    have apart' := Text.apart_spread blank solid nonempty apart
    rwa [none, List.append_nil, ← cut.whole] at apart'
  · obtain ⟨c, others, rfl⟩ := List.exists_cons_of_ne_nil nonempty
    exact (Cut.of_solid (solid c List.mem_cons_self) padding).longest

/-- A mark is no blank. -/
theorem Sigil.solid_mark (sigil : Sigil) : ∀ c ∈ sigil.mark, Text.isBlank c = false := by
  -- There are a few marks, which are looked through.
  have all : sigil.mark.all (!Text.isBlank ·) = true := by
    cases sigil <;> decide
  simpa using all

/-- What opens a tag does so with margins, which its content has of its own. -/
theorem Opens.margins (blank : margin.Blank) (solid : pair.Solid) {sigil : Sigil}
    {lead between content : Text} (opens : Opens pair text sigil lead between content) :
    ∃ lead' between', Opens pair (spread margin text) sigil lead' between'
      (spread margin content) := by
  -- The blanks on either side of the mark take in the margins behind their line breaks.
  refine ⟨spread margin lead ++ gap margin lead (sigil.mark ++ (between ++ content)),
    spread margin between ++ gap margin between content, ?_, ?_, ?_, ?_, ?_⟩
  · rw [opens.whole, Text.spread_solid_append solid.opening, spread_append,
      Text.spread_solid_append sigil.solid_mark, spread_append]
    simp only [List.append_assoc]
  · rw [Text.blank_append]
    exact ⟨Text.blank_spread blank opens.lead_blank, Text.blank_gap blank⟩
  · rw [Text.blank_append]
    exact ⟨Text.blank_spread blank opens.gap_blank, Text.blank_gap blank⟩
  · rw [Text.head?_spread]
    exact opens.solid
  · -- A tag without a mark has nothing behind it that could be one.
    intro plain
    obtain ⟨rfl, unmarked⟩ := opens.unmarked plain
    rw [Text.head?_spread]
    exact ⟨by rw [Text.nil_gap]; rfl, unmarked⟩

/-- What closes a tag does so with margins, which its body and the text behind have of their own. -/
theorem Closes.margins (blank : margin.Blank) (solid : pair.Solid) {sigil : Sigil}
    {content body rest : Text} (closes : Closes pair content sigil body rest) :
    Closes pair (spread margin content) sigil (spread margin body) (spread margin rest) := by
  have nonempty := pair.closing_ne_nil
  -- Each cut of the tag is one with margins, as what it is cut at has no blanks.
  cases closes with
  | ordinary noBrace noSwitch closed =>
    obtain ⟨pad, closed'⟩ := closed.margins blank solid.closing nonempty
    exact .ordinary noBrace noSwitch closed'
  | @brace _ _ later _ _ ended closed =>
    have brace : ∀ c ∈ '\x7d' :: pair.closing, Text.isBlank c = false := by
      intro c member
      rcases List.mem_cons.mp member with rfl | member
      · decide
      · exact solid.closing c member
    obtain ⟨pad, ended'⟩ := ended.margins blank brace (List.cons_ne_nil _ _)
    obtain ⟨slack, closed'⟩ := closed.margins blank solid.closing nonempty
    -- The delimiter behind the brace has no margin.
    rw [Text.spread_solid_append solid.closing] at closed'
    exact .brace ended' closed'
  | switch ended closed =>
    have sign : ∀ c ∈ ['='], Text.isBlank c = false := List.forall_mem_singleton.mpr (by decide)
    obtain ⟨pad, ended'⟩ := ended.margins blank sign (List.cons_ne_nil _ _)
    obtain ⟨slack, closed'⟩ := closed.margins blank solid.closing nonempty
    exact .switch ended' closed'

/-- A tag is one with margins, which its body and what is behind it have of their own. -/
theorem ReadsTag.margins (blank : margin.Blank) (solid : pair.Solid) {sigil : Sigil}
    {body rest : Text} (tag : ReadsTag pair text sigil body rest) :
    ReadsTag pair (spread margin text) sigil (spread margin body) (spread margin rest) := by
  -- A tag is opened and closed, each with margins.
  obtain ⟨lead, between, content, opens, closes⟩ := tag
  obtain ⟨lead', between', opens'⟩ := opens.margins blank solid
  exact ⟨lead', between', _, opens', closes.margins blank solid⟩

/-- The delimiters behind a tag are the same with margins. -/
theorem Delimiters.Follows.margins {next : Delimiters} (blank : margin.Blank) {sigil : Sigil}
    {body : Text} (follows : pair.Follows sigil body next) :
    pair.Follows sigil (spread margin body) next := by
  -- The words of a body are the same with margins between them.
  cases follows with
  | kept noSwitch => exact .kept noSwitch
  | switched words => exact .switched ((Text.words_spread blank body).trans words)

end Tags

/-- What is left of a piece without blanks and offsets, with margins in the bodies of tags. -/
def Piece.spread? (margin : Text) : Piece → Option (Char ⊕ Sigil × Text)
  | .char c _ => if Text.isBlank c then none else some (.inl c)
  | .tag t => some (.inr (t.sigil, spread margin t.body))

section Readings

variable {margin : Text} {pair : Delimiters}

/-- Nothing is left of blanks. -/
theorem Piece.filterMap_spread?_blank {pad : Text} (blank : pad.Blank) (offset : Nat) :
    (ofText offset pad).filterMap (spread? margin) = [] := by
  -- Each character is left out by itself.
  induction pad generalizing offset with
  | nil => rfl
  | cons c pad ih =>
    obtain ⟨first, others⟩ := (Text.blank_cons c pad).mp blank
    rw [ofText, List.filterMap_cons_none (by rw [spread?, if_pos first]), ih others]

/-- The same is left of a text with margins and without them. -/
theorem Piece.filterMap_spread?_ofText (blank : margin.Blank) (t : Text) (offset offset' : Nat) :
    (ofText offset (spread margin t)).filterMap (spread? [])
      = (ofText offset' t).filterMap (spread? margin) := by
  -- The induction is on the text, whose offsets do not matter.
  induction t generalizing offset offset' with
  | nil => rfl
  | cons c t ih =>
    -- Nothing is left of the margin behind the character.
    rw [spread, ofText, ofText, Piece.ofText_append, List.filterMap_cons, List.filterMap_cons,
      List.filterMap_append, filterMap_spread?_blank (Text.blank_gap blank), List.nil_append, ih]
    rfl

/-- A text without blanks that does not occur in a text does not occur with margins either. -/
theorem Text.absent_spread {literal text lead : Text} (blank : margin.Blank)
    (solid : ∀ c ∈ literal, Text.isBlank c = false) (nonempty : literal ≠ [])
    (absent : ¬ literal <:+: text) (lead_blank : lead.Blank) :
    ¬ literal <:+: (lead ++ spread margin text) := by
  rintro ⟨front, behind, whole⟩
  -- The literal would stand behind the blanks in front.
  have stands : literal <+: (lead ++ spread margin text).drop front.length := by
    rw [← whole, List.append_assoc, List.drop_left]
    exact List.prefix_append literal behind
  have passed := Text.length_le_of_stands lead_blank solid nonempty stands
  rw [List.drop_append, List.drop_eq_nil_of_le passed, List.nil_append] at stands
  -- And then it would stand in the text without margins.
  obtain ⟨front', behind', rfl, -⟩ := Text.stands_of_spread blank solid nonempty stands
  exact absent ⟨front', behind', by rw [List.append_assoc]⟩

/-- A text without faults has none with margins, and its pieces are the same up to blanks. -/
theorem Reads.margins (blank : margin.Blank) {offset : Nat} {text : Text} {reading : Reading}
    (reads : Reads pair offset text reading) (complete : reading.fault = none) (solid : pair.Solid)
    {lead : Text} (lead_blank : lead.Blank) (offset' : Nat) :
    ∃ pieces, Reads pair offset' (lead ++ spread margin text) ⟨pieces, none⟩
      ∧ pieces.filterMap (Piece.spread? []) = reading.pieces.filterMap (Piece.spread? margin) := by
  -- The induction is on the reading; blanks may stand in front of the first piece only.
  induction reads generalizing lead offset' with
  | @finished pair offset text absent =>
    refine ⟨_, .finished (Text.absent_spread blank solid.opening pair.opening_ne_nil absent
      lead_blank), ?_⟩
    rw [Piece.ofText_append, List.filterMap_append, Piece.filterMap_spread?_blank lead_blank,
      List.nil_append]
    exact Piece.filterMap_spread?_ofText blank text _ _
  | unclosed _ _ => cases complete
  | invalid _ _ _ => cases complete
  | @tag pair next offset stop before later body rest sigil reading opened tag follows stops _ ih =>
    have opened' := opened.margins blank solid.opening pair.opening_ne_nil lead_blank
    have tag' := tag.margins blank solid
    generalize front : lead ++ (spread margin before ++ gap margin before later) = before' at opened'
    have whole : lead ++ spread margin (before ++ later) = before' ++ spread margin later := by
      rw [spread_append, ← front]
      simp only [List.append_assoc]
    have shorter := tag'.length_lt
    obtain ⟨pieces, reads', same⟩ := ih complete (follows.solid solid) Text.blank_nil
      (offset' + (before' ++ spread margin later).length - (spread margin rest).length)
    rw [List.nil_append] at reads'
    rw [whole]
    refine ⟨_, .tag opened' tag' (follows.margins blank) ?_ reads', ?_⟩
    · rw [List.length_append]
      omega
    · rw [List.filterMap_append, List.filterMap_append, List.filterMap_cons, List.filterMap_cons,
        same, ← front, Piece.ofText_append, Piece.ofText_append, List.filterMap_append,
        List.filterMap_append, Piece.filterMap_spread?_blank lead_blank,
        Piece.filterMap_spread?_blank (Text.blank_gap blank),
        Piece.filterMap_spread?_ofText blank before _ offset, List.nil_append, List.append_nil]
      -- The body has its margins already.
      simp only [Piece.spread?, Text.spread_nil]

end Readings

end Mustache
