import Mustache.Proofs.Layout

/-!
A part of a source between two tags is read by itself as it is read inside the source.

No tag reaches beyond the place where it ends, so that what stands behind may be left out.
-/

namespace Mustache

/-- A cut text may end sooner, as long as it ends behind the literal. -/
theorem Cut.truncate {literal text before pad after extra : Text}
    (cut : Cut literal text before pad (after ++ extra)) :
    ∃ text', text = text' ++ extra ∧ Cut literal text' before pad after := by
  have whole : text = before ++ (pad ++ (literal ++ after)) ++ extra := by
    simp only [cut.whole, List.append_assoc]
  refine ⟨_, whole, rfl, cut.blank, cut.tight, fun n early stands => ?_, ?_⟩
  · -- What stands in the shorter text stands in the longer one.
    refine cut.first n early ?_
    rw [whole, List.drop_append_of_le_length (by rw [List.length_append]; omega)]
    exact stands.trans (List.prefix_append ..)
  · -- Blanks that are enough for the shorter text are enough for the longer one.
    intro pad' after' blank same
    refine cut.longest pad' (after' ++ extra) blank ?_
    have longer := congrArg (· ++ extra) same
    simpa only [List.append_assoc] using longer

/-- The content of a tag may end sooner, as long as it ends behind the closing delimiter. -/
theorem Closes.truncate {pair : Delimiters} {content body rest extra : Text} {sigil : Sigil}
    (closes : Closes pair content sigil body (rest ++ extra)) :
    ∃ content', content = content' ++ extra ∧ content' ≠ [] ∧ Closes pair content' sigil body rest := by
  -- A text with a literal in it is not empty.
  have nonempty : ∀ {literal text before pad after : Text}, literal ≠ [] →
      Cut literal text before pad after → text ≠ [] := by
    rintro literal text before pad after some cut rfl
    have ended := congrArg List.length cut.whole
    have long := List.length_pos_iff.mpr some
    simp only [List.length_nil, List.length_append] at ended
    omega
  cases closes with
  | ordinary noBrace noSwitch closed =>
    obtain ⟨content', whole, closed'⟩ := closed.truncate
    exact ⟨content', whole, nonempty pair.closing_ne_nil closed', .ordinary noBrace noSwitch closed'⟩
  | @brace _ pad later slack _ ended closed =>
    obtain ⟨closing', whole, closed'⟩ := closed.truncate
    -- The delimiter behind the brace shows inside what is left.
    have shows : pair.closing <+: closing' := by
      refine List.prefix_of_prefix_length_le (List.prefix_append _ later)
        (whole ▸ List.prefix_append ..) ?_
      rw [closed'.whole]
      simp only [List.length_append]
      omega
    obtain ⟨later', rfl⟩ := shows
    rw [List.append_assoc] at whole
    obtain rfl := List.append_cancel_left whole
    obtain ⟨content', whole', ended'⟩ := ended.truncate
    exact ⟨content', whole', nonempty (List.cons_ne_nil _ _) ended', .brace ended' closed'⟩
  -- A change of delimiters ends with a mark, behind which the closing delimiter stands.
  | switch ended closed =>
    obtain ⟨later', rfl, closed'⟩ := closed.truncate
    obtain ⟨content', whole, ended'⟩ := ended.truncate
    exact ⟨content', whole, nonempty (List.cons_ne_nil _ _) ended', .switch ended' closed'⟩

/-- A tag is read in the same way if the text ends sooner behind it. -/
theorem ReadsTag.truncate {pair : Delimiters} {text body rest extra : Text} {sigil : Sigil}
    (reads : ReadsTag pair text sigil body (rest ++ extra)) :
    ∃ text', text = text' ++ extra ∧ ReadsTag pair text' sigil body rest := by
  obtain ⟨lead, gap, content, opens, closes⟩ := reads
  -- What closes the tag needs nothing of what stands behind it.
  obtain ⟨content', rfl, nonempty, closes'⟩ := closes.truncate
  -- The content begins with the same character.
  have head : content'.head? = (content' ++ extra).head? := by
    cases content' with
    | nil => exact absurd rfl nonempty
    | cons c more => rfl
  refine ⟨pair.opening ++ (lead ++ (sigil.mark ++ (gap ++ content'))), ?_, lead, gap, content',
    ⟨rfl, opens.lead_blank, opens.gap_blank, head ▸ opens.solid, head ▸ opens.unmarked⟩, closes'⟩
  simp only [opens.whole, List.append_assoc]

/-- A tag begins with the opening delimiter. -/
theorem ReadsTag.opened {pair : Delimiters} {text body rest : Text} {sigil : Sigil}
    (reads : ReadsTag pair text sigil body rest) : pair.opening <+: text := by
  -- The text is the delimiter and what the tag opens with behind it.
  obtain ⟨lead, gap, content, opens, -⟩ := reads
  exact ⟨_, opens.whole.symm⟩

/-- A tag and what comes before it, where the text ends sooner behind the tag. -/
theorem FirstAt.truncate {literal before later later' extra : Text}
    (found : FirstAt literal before later) (whole : later = later' ++ extra)
    (shows : literal <+: later') : FirstAt literal before later' where
  here := shows
  first := by
    intro n early stands
    -- What stands in the shorter text stands in the longer one.
    refine found.first n early ?_
    rw [whole, ← List.append_assoc, List.drop_append_of_le_length (by rw [List.length_append]; omega)]
    exact stands.trans (List.prefix_append ..)

/-- In front of the first place of a literal there is no other one. -/
theorem FirstAt.absent {literal before later : Text} (found : FirstAt literal before later)
    (nonempty : literal ≠ []) : ¬ literal <:+: before := by
  -- A literal inside would stand earlier than its first place.
  rintro ⟨front, back, rfl⟩
  have long := List.length_pos_iff.mpr nonempty
  refine found.first front.length (by simp only [List.length_append]; omega) ?_
  rw [List.append_assoc, List.append_assoc, List.drop_left]
  exact List.prefix_append ..

/-- Pieces are divided at a tag in the text before the first tag, or behind this tag. -/
theorem Piece.split_at_tag {offset : Nat} {before : Text} {first tag : Tag}
    {more front behind : List Piece}
    (same : ofText offset before ++ .tag first :: more = front ++ .tag tag :: behind) :
    (front = ofText offset before ∧ first = tag ∧ more = behind)
      ∨ ∃ front', front = ofText offset before ++ .tag first :: front'
        ∧ more = front' ++ .tag tag :: behind := by
  -- The induction is on the text in front of the tag, whose characters come first.
  induction before generalizing offset front with
  | nil =>
    cases front with
    | nil =>
      obtain ⟨tags, behind⟩ := List.cons.inj same
      exact .inl ⟨rfl, Piece.tag.inj tags, behind⟩
    | cons piece front =>
      obtain ⟨rfl, later⟩ := List.cons.inj same
      exact .inr ⟨front, rfl, later⟩
  | cons c before ih =>
    -- The first character belongs to the front.
    cases front with
    | nil => cases (List.cons.inj same).1
    | cons piece front =>
      obtain ⟨rfl, later⟩ := List.cons.inj same
      rcases ih later with ⟨rfl, rest⟩ | ⟨front', rfl, rest⟩
      · exact .inl ⟨rfl, rest⟩
      · exact .inr ⟨front', rfl, rest⟩

/-- There is no tag among the characters of a text. -/
theorem Piece.tag_notMem_ofText {offset : Nat} {t : Text} {tag : Tag} :
    Piece.tag tag ∉ ofText offset t := by
  -- The pieces of a text are its characters.
  induction t generalizing offset with
  | nil => nofun
  | cons c t ih =>
    intro member
    rcases List.mem_cons.mp member with same | later
    · cases same
    · exact ih later

/-- The delimiters after some changes of those before: the last ones. -/
def Delimiters.last (pair : Delimiters) (switches : List Template.Switch) : Delimiters :=
  (switches.getLast?.map Template.Switch.pair).getD pair

/-- The delimiters at an offset of a source: those that the last change in front of it makes. -/
def Template.delimitersAt (source : Text) (pair : Delimiters) (offset : Int) : Delimiters :=
  pair.last ((switches source pair).filter fun switch => (switch.start : Int) < offset)

/-- The changes behind the first one come after it. -/
theorem Delimiters.last_cons (pair : Delimiters) (switch : Template.Switch)
    (others : List Template.Switch) : pair.last (switch :: others) = switch.pair.last others := by
  rw [last, last, List.getLast?_cons]
  -- There are other changes or none.
  cases others.getLast? <;> rfl

/-- The characters of a text change no delimiters. -/
theorem Piece.filterMap_switch?_ofText (offset : Nat) (t : Text) :
    (ofText offset t).filterMap Template.switch? = [] := by
  -- The induction is on the text, none of whose characters is a tag.
  induction t generalizing offset with
  | nil => rfl
  | cons c t ih => exact ih (offset + 1)

/-- Behind a tag the delimiters are those that follow it. -/
theorem Delimiters.Follows.last_eq {pair next : Delimiters} {sigil : Sigil} {body : Text}
    (follows : pair.Follows sigil body next) (offset start stop : Nat) (before : Text)
    (behind : List Piece) :
    pair.last ((Piece.ofText offset before ++ .tag ⟨sigil, body, start, stop⟩ :: behind).filterMap
        Template.switch?) = next.last (behind.filterMap Template.switch?) := by
  rw [List.filterMap_append, Piece.filterMap_switch?_ofText, List.nil_append]
  by_cases switch : sigil = .switch
  · subst switch
    have changes : pair.after? ⟨.switch, body, start, stop⟩ = some next :=
      after?_eq_some_iff.mpr follows
    have changes' : ofBody? body = some next := changes
    -- The change is the first one.
    rw [List.filterMap_cons_some (b := ⟨next, start⟩) (by simp [Template.switch?, changes']),
      last_cons]
  · -- Any other tag is no switch, and the delimiters in front of it are still in use.
    obtain rfl := follows.eq_of_ne_switch switch
    have none : Template.switch? (.tag ⟨sigil, body, start, stop⟩) = none := by
      cases sigil <;> first | rfl | contradiction
    rw [List.filterMap_cons_none none]

/-- What is left behind a tag is the end of the text, which is shorter. -/
theorem ReadsTag.length_lt {pair : Delimiters} {text body rest : Text} {sigil : Sigil}
    (reads : ReadsTag pair text sigil body rest) : rest.length < text.length := by
  -- The tag itself has some length.
  obtain ⟨written, rfl, form⟩ := reads.tagForm
  have long := form.length_pos
  rw [List.length_append]
  omega

/-- A tag that stands further on. -/
def Tag.moved (distance : Nat) (tag : Tag) : Tag :=
  { tag with start := tag.start + distance, stop := tag.stop + distance }

/-- A piece that stands further on. -/
def Piece.moved (distance : Nat) : Piece → Piece
  | .char c offset => .char c (offset + distance)
  | .tag t => .tag (t.moved distance)

/-- The characters of a text that stands further on. -/
theorem Piece.ofText_add (offset distance : Nat) (t : Text) :
    ofText (offset + distance) t = (ofText offset t).map (moved distance) := by
  induction t generalizing offset with
  | nil => rfl
  | cons c t ih =>
    -- Each of the other characters stands as much further on.
    rw [ofText, ofText, List.map_cons, Nat.add_right_comm, ih]
    rfl

namespace Reads

variable {pair : Delimiters} {offset : Nat} {text : Text} {reading : Reading}

/-- The tags of a text stand in it. -/
theorem tag_within (reads : Reads pair offset text reading) {tag : Tag}
    (member : .tag tag ∈ reading.pieces) :
    offset ≤ tag.start ∧ tag.start < tag.stop ∧ tag.stop ≤ offset + text.length := by
  -- The induction is on how the text is read; a tag stands behind those read before.
  induction reads with
  | finished _ => exact absurd member Piece.tag_notMem_ofText
  | unclosed _ _ => exact absurd member Piece.tag_notMem_ofText
  | invalid _ _ _ => exact absurd member Piece.tag_notMem_ofText
  | tag opened tag' follows stops _ ih =>
    have shorter := tag'.length_lt
    rw [List.length_append] at stops ⊢
    rcases List.mem_append.mp member with inText | later
    · exact absurd inText Piece.tag_notMem_ofText
    · rcases List.mem_cons.mp later with same | behind
      · cases same
        dsimp only
        omega
      · -- The other tags stand in what is left behind the first one.
        obtain ⟨from', order, upTo⟩ := ih behind
        omega

/-- The text in front of a tag reads as the pieces in front of it, and comes to an end there. -/
theorem before_tag (reads : Reads pair offset text reading) {front behind : List Piece} {tag : Tag}
    (split : reading.pieces = front ++ .tag tag :: behind) :
    ∃ part later, text = part ++ later ∧ offset + part.length = tag.start
      ∧ Reads pair offset part ⟨front, none⟩ := by
  have member : .tag tag ∈ reading.pieces := split ▸ List.mem_append_right front (.head behind)
  induction reads generalizing front with
  | finished _ => exact absurd member Piece.tag_notMem_ofText
  | unclosed _ _ => exact absurd member Piece.tag_notMem_ofText
  | invalid _ _ _ => exact absurd member Piece.tag_notMem_ofText
  | @tag pair next offset stop before later body rest sigil reading opened tag' follows stops _ ih =>
    rcases Piece.split_at_tag split with ⟨rfl, rfl, -⟩ | ⟨front', rfl, split'⟩
    · -- The tag is the first one, and there is none before it.
      exact ⟨before, later, rfl, rfl, .finished (opened.absent pair.opening_ne_nil)⟩
    · -- A tag in front is read in the shorter text as well, which ends behind it.
      have member' : Piece.tag tag ∈ reading.pieces :=
        split' ▸ List.mem_append_right front' (.head behind)
      obtain ⟨part, extra, rfl, place, reads'⟩ := ih split' member'
      obtain ⟨later', rfl, tag''⟩ := tag'.truncate
      refine ⟨before ++ later', extra, (List.append_assoc ..).symm, ?_, ?_⟩
      · simp only [List.length_append] at stops ⊢
        omega
      · refine .tag (opened.truncate rfl tag''.opened) tag'' follows ?_ reads'
        simp only [List.length_append] at stops ⊢
        omega

/-- The text behind a tag reads as the pieces behind it, with the delimiters changed last. -/
theorem behind_tag (reads : Reads pair offset text reading) {front behind : List Piece} {tag : Tag}
    (split : reading.pieces = front ++ .tag tag :: behind) :
    ∃ part rest, text = part ++ rest ∧ offset + part.length = tag.stop
      ∧ Reads (pair.last ((front ++ [Piece.tag tag]).filterMap Template.switch?)) tag.stop rest
        ⟨behind, reading.fault⟩ := by
  have member : .tag tag ∈ reading.pieces := split ▸ List.mem_append_right front (.head behind)
  induction reads generalizing front with
  | finished _ => exact absurd member Piece.tag_notMem_ofText
  | unclosed _ _ => exact absurd member Piece.tag_notMem_ofText
  | invalid _ _ _ => exact absurd member Piece.tag_notMem_ofText
  | @tag pair next offset stop before later body rest sigil reading opened tag' follows stops more ih =>
    -- What is written of the first tag ends where the tag does.
    obtain ⟨written, rfl, -⟩ := tag'.tagForm
    have length : offset + (before ++ written).length = stop := by
      simp only [List.length_append] at stops ⊢
      omega
    have changed := follows.last_eq offset (offset + before.length) stop before
    rcases Piece.split_at_tag split with ⟨rfl, rfl, rfl⟩ | ⟨front', rfl, split'⟩
    · refine ⟨before ++ written, rest, (List.append_assoc ..).symm, length, ?_⟩
      rw [changed]
      exact more
    · -- The tag is read in what is left behind the first one, with the delimiters found there.
      have member' : Piece.tag tag ∈ reading.pieces :=
        split' ▸ List.mem_append_right front' (.head behind)
      obtain ⟨part, rest', rfl, place, reads'⟩ := ih split' member'
      refine ⟨before ++ (written ++ part), rest', by simp only [List.append_assoc], ?_, ?_⟩
      · simp only [List.length_append] at length ⊢
        omega
      · rw [List.append_assoc, List.cons_append, changed]
        exact reads'

/-- Where a text stands in its source makes no difference to how it reads. -/
theorem moved_of_complete (reads : Reads pair offset text reading) (complete : reading.fault = none)
    {place distance : Nat} (further : offset = place + distance) :
    ∃ pieces, Reads pair place text ⟨pieces, none⟩
      ∧ reading.pieces = pieces.map (Piece.moved distance) := by
  -- The induction is on the reading, each tag of which stands further on by the same distance.
  induction reads generalizing place with
  | finished absent => exact ⟨_, .finished absent, further ▸ Piece.ofText_add ..⟩
  | unclosed _ _ => cases complete
  | invalid _ _ _ => cases complete
  | @tag pair next offset stop before later body rest sigil reading opened tag' follows stops _ ih =>
    subst further
    have shorter := tag'.length_lt
    rw [List.length_append] at stops
    -- The place behind the tag is further on by as much.
    obtain ⟨stop, rfl⟩ : ∃ stop', stop = stop' + distance := ⟨stop - distance, by omega⟩
    obtain ⟨pieces, reads', same⟩ := ih complete rfl
    refine ⟨_, .tag opened tag' follows ?_ reads', ?_⟩
    · rw [List.length_append]
      omega
    · rw [List.map_append, List.map_cons, ← Piece.ofText_add, ← same, Piece.moved, Tag.moved]
      simp only [Nat.add_right_comm]

end Reads

end Mustache
