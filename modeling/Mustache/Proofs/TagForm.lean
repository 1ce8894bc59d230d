import Mathlib.Data.List.Infix
import Mustache.Proofs.Reading

/-! The full text of a tag, from its opening delimiter to its closing one. -/

namespace Mustache

/-- What the body of a tag is read up to. -/
def Delimiters.terminator (pair : Delimiters) : Sigil → Text
  | .brace => '\x7d' :: pair.closing
  | .switch => ['=']
  | _ => pair.closing

/--
Which closing delimiter ends a tag.

It goes by what may stand between the place where the delimiter shows and the one that ends the tag,
and by what stands behind the tag.
-/
abbrev Slack := Delimiters → Text → Text → Prop

/-- The delimiter that shows first ends the tag: nothing may stand in front of that. -/
def Slack.none : Slack := fun _ pad _ => pad = []

/--
The last delimiter of a row of blanks ends the tag.

Blanks may stand in front of it if the delimiter consists of blanks itself, but not behind the place
where it begins and in front of another one.
-/
def Slack.blanks : Slack := fun pair pad behind =>
  (pad ≠ [] → pad.Blank ∧ pair.closing.Blank)
    ∧ ∀ more : Text, more ≠ [] → more.Blank → ¬ more ++ pair.closing <+: pair.closing ++ behind

/--
What stands between the body of a tag, with the blanks behind it, and its closing delimiter.

It depends on what stands behind the tag.
-/
inductive Ending (slack : Slack) (pair : Delimiters) (behind : Text) : Sigil → Text → Prop
  /-- The delimiter follows at once. -/
  | ordinary {sigil : Sigil} (noBrace : sigil ≠ .brace) (noSwitch : sigil ≠ .switch)
      (loose : slack pair [] behind) : Ending slack pair behind sigil []
  /-- A brace comes first, and the delimiter shows right behind it. -/
  | brace {pad : Text} (shows : pair.closing <+: pad ++ pair.closing)
      (loose : slack pair pad behind) : Ending slack pair behind .brace ('\x7d' :: pad)
  /-- An equals sign comes first, and then anything up to where the delimiter first shows. -/
  | switch {ignored pad : Text} (shows : FirstAt pair.closing ignored (pad ++ pair.closing))
      (loose : slack pair pad behind) : Ending slack pair behind .switch ('=' :: (ignored ++ pad))

/-- The parts that the full text of a tag consists of, given what stands behind it. -/
structure TagParts (slack : Slack) (pair : Delimiters) (sigil : Sigil) (body written behind : Text)
    (lead gap trail ending : Text) : Prop where
  /-- The parts stand between the delimiters in this order. -/
  whole : written = pair.opening ++ (lead ++ (sigil.mark ++ (gap ++
    (body ++ (trail ++ (ending ++ pair.closing))))))
  /-- Blanks may stand before the mark. -/
  lead_blank : lead.Blank
  /-- Blanks may stand before the body. -/
  gap_blank : gap.Blank
  /-- Blanks may stand behind the body. -/
  trail_blank : trail.Blank
  /-- The mark at the front may ask for one at the end. -/
  ends : Ending slack pair behind sigil ending
  /-- The body does not begin with a blank. -/
  first : ∀ c ∈ body.head?, Text.isBlank c = false
  /-- The body does not end with a blank. -/
  last : ∀ c ∈ body.getLast?, Text.isBlank c = false
  /-- What the body is read up to does not stand in it. -/
  unterminated : ¬ pair.terminator sigil <:+: body

/-- A text is a tag with a sigil and a body, and nothing else, in front of what is behind it. -/
def TagForm (slack : Slack) (pair : Delimiters) (sigil : Sigil) (body written behind : Text) :
    Prop :=
  ∃ lead gap trail ending, TagParts slack pair sigil body written behind lead gap trail ending

/-- Where a text also begins behind blanks in front of itself, it consists of blanks. -/
theorem Text.blank_of_prefix {pad t : Text} (blank : pad.Blank) (nonempty : pad ≠ [])
    (shows : t <+: pad ++ t) : t.Blank := by
  obtain ⟨after, same⟩ := shows
  -- The text is divided at its first character that is no blank.
  have split := List.takeWhile_append_dropWhile (p := isBlank) (l := t)
  have front := blank_takeWhile t
  have stop := head?_dropWhile_blank t
  cases rest : t.dropWhile isBlank with
  | nil =>
    rw [rest, List.append_nil] at split
    exact split ▸ front
  | cons c more =>
    -- The first character that is no blank would stand at two places.
    rw [rest] at split stop
    have whole : t.takeWhile isBlank ++ (c :: more ++ after)
        = (pad ++ t.takeWhile isBlank) ++ (c :: more) := by
      rw [← List.append_assoc, split, List.append_assoc, split, same]
    obtain ⟨lengths, -⟩ := blanks_unique front ((blank_append ..).mpr ⟨blank, front⟩)
      (by simpa using stop) stop whole
    have shorter := congrArg List.length lengths
    rw [List.length_append] at shorter
    exact absurd (List.eq_nil_of_length_eq_zero (by omega)) nonempty

/-- Behind a cut no more blanks stand in front of the literal. -/
theorem Cut.last {literal text before pad after : Text} (cut : Cut literal text before pad after) :
    ∀ more : Text, more ≠ [] → more.Blank → ¬ more ++ literal <+: literal ++ after := by
  rintro more nonempty blank ⟨after', same⟩
  -- The row of blanks would be longer with these.
  have short := cut.longest (pad ++ more) after' ((Text.blank_append ..).mpr ⟨cut.blank, blank⟩)
    (by rw [← same, List.append_assoc, List.append_assoc])
  -- There would be at least one more.
  have long := List.length_pos_iff.mpr nonempty
  rw [List.length_append] at short
  omega

/-- Blanks between two places of the closing delimiter are such as may stand there. -/
theorem Slack.blanks_of_prefix {pair : Delimiters} {text before gap pad behind : Text}
    (cut : Cut pair.closing text before gap behind) (blank : pad.Blank)
    (shows : pair.closing <+: pad ++ pair.closing) : Slack.blanks pair pad behind :=
  -- The delimiter shows in front of the blanks and behind them.
  ⟨fun nonempty => ⟨blank, Text.blank_of_prefix blank nonempty shows⟩, cut.last⟩

/-- What comes before a cut does not hold the literal. -/
theorem Cut.absent {literal text before pad after : Text} (cut : Cut literal text before pad after)
    (nonempty : literal ≠ []) : ¬ literal <:+: before := by
  rintro ⟨front, back, rfl⟩
  have long := List.length_pos_iff.mpr nonempty
  -- An occurrence would begin in front of the cut.
  refine cut.first front.length (by simp only [List.length_append]; omega) ?_
  rw [cut.whole, List.append_assoc, List.append_assoc, List.drop_left]
  exact List.prefix_append literal _

/-- What is ignored before the closing delimiter goes up to where the delimiter first shows. -/
theorem Cut.firstAt {pair : Delimiters} {text before pad after : Text}
    (cut : Cut pair.closing text before pad after) :
    ∃ ignored slack, before ++ pad = ignored ++ slack
      ∧ FirstAt pair.closing ignored (slack ++ pair.closing)
      ∧ Slack.blanks pair slack after := by
  generalize stopped : (Pattern.opening pair.closing).distance (before ++ pad ++ pair.closing)
    = place
  have long : 0 < pair.closing.length := List.length_pos_iff.mpr pair.closing_ne_nil
  have within : place ≤ (before ++ pad).length := by
    rw [← stopped]
    refine Pattern.distance_le_of_matchesAt ?_
    rw [List.drop_left, Pattern.matchesAt_opening]
  have found := Pattern.firstAt_of_distance stopped (by rw [List.length_append]; omega)
  rw [List.take_append_of_le_length within, List.drop_append_of_le_length within] at found
  -- The delimiter does not show before the cut, so that only blanks are left.
  have late : before.length ≤ place := by
    refine Nat.le_of_not_lt fun early => cut.first place early ?_
    have front : before ++ pad ++ pair.closing <+: text :=
      ⟨after, by simp only [cut.whole, List.append_assoc]⟩
    have shown := found.here
    rw [← List.drop_append_of_le_length within] at shown
    exact shown.trans (List.IsPrefix.drop front place)
  -- Behind the body everything up to the cut is blank, whatever part of it is taken.
  have blank : Text.Blank ((before ++ pad).drop place) := by
    intro c member
    rw [List.drop_append, List.drop_eq_nil_of_le late, List.nil_append] at member
    exact cut.blank c (List.mem_of_mem_drop member)
  exact ⟨_, _, (List.take_append_drop place _).symm, found,
    Slack.blanks_of_prefix cut blank found.here⟩

/-- The body of a tag starts where its content does. -/
theorem Opens.head_body {pair : Delimiters} {text : Text} {sigil : Sigil}
    {lead gap body more : Text} (opens : Opens pair text sigil lead gap (body ++ more)) :
    ∀ c ∈ body.head?, Text.isBlank c = false := by
  -- The first character of the body is the first one of the content.
  intro c first
  obtain ⟨rest, rfl⟩ := List.head?_eq_some_iff.mp first
  exact opens.solid c rfl

/-- The front of a text that is read as a tag is the full text of the tag. -/
theorem ReadsTag.tagForm {pair : Delimiters} {text : Text} {sigil : Sigil} {body rest : Text}
    (reads : ReadsTag pair text sigil body rest) :
    ∃ written, text = written ++ rest ∧ TagForm .blanks pair sigil body written rest := by
  obtain ⟨lead, gap, content, opens, closes⟩ := reads
  -- It is enough to divide the content, whose front is the body.
  have assemble : ∀ (trail ending : Text),
      content = body ++ (trail ++ (ending ++ (pair.closing ++ rest))) → trail.Blank →
      Ending .blanks pair rest sigil ending → (∀ c ∈ body.getLast?, Text.isBlank c = false) →
      ¬ pair.terminator sigil <:+: body →
      ∃ written, text = written ++ rest ∧ TagForm .blanks pair sigil body written rest := by
    intro trail ending split blank ends last unterminated
    refine ⟨_, ?_, lead, gap, trail, ending, rfl, opens.lead_blank, opens.gap_blank, blank, ends,
      (split ▸ opens).head_body, last, unterminated⟩
    simp only [opens.whole, split, List.append_assoc]
  cases closes with
  | @ordinary _ _ pad _ noBrace noSwitch closed =>
    have same : pair.terminator sigil = pair.closing := by
      cases sigil <;> first | rfl | contradiction
    exact assemble pad [] closed.whole closed.blank
      (.ordinary noBrace noSwitch ⟨nofun, closed.last⟩) closed.tight
      (same ▸ closed.absent pair.closing_ne_nil)
  | @brace _ pad later slack _ ended closed =>
    -- The delimiter begins with the blanks that are passed over, or stands behind all of them.
    have shows : pair.closing <+: slack ++ pair.closing :=
      List.prefix_of_prefix_length_le (List.prefix_append _ later)
        ⟨rest, by rw [closed.whole, List.nil_append, List.append_assoc]⟩ (by simp)
    refine assemble pad ('\x7d' :: slack) ?_ ended.blank
      (.brace shows (Slack.blanks_of_prefix closed closed.blank shows)) ended.tight
      (ended.absent (List.cons_ne_nil _ _))
    rw [ended.whole, List.cons_append, closed.whole, List.nil_append, List.cons_append]
  | @switch _ pad later ignored slack _ ended closed =>
    obtain ⟨ignored', slack', same, shows, loose⟩ := closed.firstAt
    -- Everything up to where the delimiter first shows is ignored.
    refine assemble pad ('=' :: (ignored' ++ slack')) ?_ ended.blank
      (.switch shows loose) ended.tight (ended.absent (List.cons_ne_nil _ _))
    rw [ended.whole, closed.whole, ← same]
    simp only [List.append_assoc, List.cons_append, List.nil_append]

end Mustache
