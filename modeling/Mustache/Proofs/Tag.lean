import Mustache.Proofs.Cut
import Mustache.Template.Tag

/-!
The written form of a tag, from its opening delimiter on.

The reader of tags accepts exactly the texts of this form, and such a text is one tag only.
-/

namespace Mustache

/-- The mark a sigil is written as. -/
def Sigil.mark : Sigil → Text
  | .plain => []
  | .ampersand => ['&']
  | .brace => ['\x7b']
  | .opener => ['#']
  | .inverter => ['^']
  | .closer => ['/']
  | .inclusion => ['>']
  | .comment => ['!']
  | .switch => ['=']

/-- A mark stands for its sigil. -/
@[simp] theorem Sigil.ofMark_mark (sigil : Sigil) : Sigil.ofMark sigil.mark = sigil := by
  -- There are nine sigils.
  cases sigil <;> rfl

/-- A mark that is not empty is one of the characters that say what a tag is for. -/
theorem Sigil.mark_eq_cons {sigil : Sigil} (marked : sigil ≠ .plain) :
    ∃ c, sigil.mark = [c] ∧ c ∈ Pattern.sigils ∧ Text.isBlank c = false := by
  -- Each sigil but the plain one has a mark of one character.
  cases sigil with
  | plain => exact absurd rfl marked
  | ampersand => exact ⟨'&', rfl, by decide, by decide⟩
  | brace => exact ⟨'\x7b', rfl, by decide, by decide⟩
  | opener => exact ⟨'#', rfl, by decide, by decide⟩
  | inverter => exact ⟨'^', rfl, by decide, by decide⟩
  | closer => exact ⟨'/', rfl, by decide, by decide⟩
  | inclusion => exact ⟨'>', rfl, by decide, by decide⟩
  | comment => exact ⟨'!', rfl, by decide, by decide⟩
  | switch => exact ⟨'=', rfl, by decide, by decide⟩

/-- A character that says what a tag is for is the mark of a sigil. -/
theorem Sigil.mark_ofMark {c : Char} (member : c ∈ Pattern.sigils) :
    (Sigil.ofMark [c]).mark = [c] ∧ Sigil.ofMark [c] ≠ .plain := by
  -- There are eight such characters.
  simp only [Pattern.sigils, List.mem_cons, List.not_mem_nil, or_false] at member
  rcases member with rfl | rfl | rfl | rfl | rfl | rfl | rfl | rfl <;> decide

/-- How a text begins as a tag: the delimiter and the sigil with blanks, and then its content. -/
structure Opens (pair : Delimiters) (text : Text) (sigil : Sigil) (lead gap content : Text) :
    Prop where
  /-- The parts follow each other in the text. -/
  whole : text = pair.opening ++ (lead ++ (sigil.mark ++ (gap ++ content)))
  /-- Blanks stand before the sigil. -/
  lead_blank : lead.Blank
  /-- Blanks stand behind the sigil. -/
  gap_blank : gap.Blank
  /-- All blanks are passed over. -/
  solid : ∀ c ∈ content.head?, Text.isBlank c = false
  /-- Without a mark the content does not begin like one. -/
  unmarked : sigil = .plain → gap = [] ∧ ∀ c ∈ content.head?, c ∉ Pattern.sigils

/-- How the content of a tag ends: its body, and what comes behind the closing delimiter. -/
inductive Closes (pair : Delimiters) (content : Text) : Sigil → Text → Text → Prop
  /-- The body ends at the closing delimiter. -/
  | ordinary {sigil : Sigil} {body pad rest : Text} (noBrace : sigil ≠ .brace)
      (noSwitch : sigil ≠ .switch) (closed : Cut pair.closing content body pad rest) :
      Closes pair content sigil body rest
  /-- The body ends at a brace right before the closing delimiter, which follows. -/
  | brace {body pad later slack rest : Text}
      (ended : Cut ('\x7d' :: pair.closing) content body pad later)
      (closed : Cut pair.closing (pair.closing ++ later) [] slack rest) :
      Closes pair content .brace body rest
  /-- The body ends at an equals sign, and then anything may stand before the delimiter. -/
  | switch {body pad later ignored slack rest : Text}
      (ended : Cut ['='] content body pad later)
      (closed : Cut pair.closing later ignored slack rest) :
      Closes pair content .switch body rest

/-- A text begins with a tag, which has a body and is followed by the rest of the text. -/
def ReadsTag (pair : Delimiters) (text : Text) (sigil : Sigil) (body rest : Text) : Prop :=
  ∃ lead gap content, Opens pair text sigil lead gap content ∧ Closes pair content sigil body rest

/-- Neither a mark nor the content of a tag begins with a blank. -/
theorem Opens.solid_mark {pair : Delimiters} {text : Text} {sigil : Sigil}
    {lead gap content : Text} (opens : Opens pair text sigil lead gap content) :
    ∀ c ∈ (sigil.mark ++ (gap ++ content)).head?, Text.isBlank c = false := by
  -- A mark comes first if there is one, and without it there is no gap.
  by_cases marked : sigil = .plain
  · obtain ⟨rfl, -⟩ := opens.unmarked marked
    rw [marked]
    exact opens.solid
  · obtain ⟨c, mark, -, solid⟩ := Sigil.mark_eq_cons marked
    simpa [mark] using solid

/-- A text that begins with the opening delimiter begins as a tag of some kind. -/
theorem Opens.exists {pair : Delimiters} {text : Text} (opened : pair.opening <+: text) :
    ∃ sigil lead gap content, Opens pair text sigil lead gap content := by
  obtain ⟨inside, rfl⟩ := opened
  -- The blanks are passed over, and the next character is a mark or belongs to the content.
  have split := List.takeWhile_append_dropWhile (p := Text.isBlank) (l := inside)
  have solid := Text.head?_dropWhile_blank inside
  generalize inside.dropWhile Text.isBlank = marked at split solid
  have lead := Text.blank_takeWhile inside
  by_cases mark : ∃ c rest, marked = c :: rest ∧ c ∈ Pattern.sigils
  · obtain ⟨c, rest, rfl, member⟩ := mark
    obtain ⟨same, notPlain⟩ := Sigil.mark_ofMark member
    refine ⟨Sigil.ofMark [c], _, rest.takeWhile Text.isBlank, rest.dropWhile Text.isBlank,
      ?_, lead, Text.blank_takeWhile rest, Text.head?_dropWhile_blank rest, ?_⟩
    · rw [same, List.takeWhile_append_dropWhile, List.singleton_append, split]
    · exact fun plain => absurd plain notPlain
  · -- Without a mark the content begins right behind the blanks.
    refine ⟨.plain, _, [], marked, ?_, lead, Text.blank_nil, solid, fun _ => ⟨rfl, ?_⟩⟩
    · simp only [Sigil.mark, List.nil_append, split]
    · intro c first member
      obtain ⟨rest, rfl⟩ := List.head?_eq_some_iff.mp first
      exact mark ⟨c, rest, rfl, member⟩

namespace Scanner

/-- A place that is not past the end of the source. -/
def Inside (s : Scanner) : Prop := s.pos ≤ s.source.length

/-- Scanners of one source at one place are the same. -/
theorem eq_of_pos {s s' : Scanner} (source : s.source = s'.source) (pos : s.pos = s'.pos) :
    s = s' := by
  -- What is left is determined by the source and the place.
  cases s with
  | mk source pos tail tail_eq =>
    cases s' with
    | mk source' pos' tail' tail_eq' =>
      dsimp only at *
      subst source pos tail_eq tail_eq'
      rfl

/-- What is left at a place further on. -/
@[simp] theorem tail_advance (s : Scanner) (count : Nat) :
    (s.advance count).tail = s.tail.drop count := rfl

/-- The place further on. -/
@[simp] theorem pos_advance (s : Scanner) (count : Nat) : (s.advance count).pos = s.pos + count :=
  rfl

/-- The source stays the same. -/
@[simp] theorem source_advance (s : Scanner) (count : Nat) : (s.advance count).source = s.source :=
  rfl

/-- To go no further is to stay. -/
@[simp] theorem advance_zero (s : Scanner) : s.advance 0 = s := eq_of_pos rfl rfl

/-- To go on twice is to go as far as both times together. -/
@[simp] theorem advance_advance (s : Scanner) (first second : Nat) :
    (s.advance first).advance second = s.advance (first + second) :=
  -- The places are the same, and so is all else.
  eq_of_pos rfl (Nat.add_assoc ..)

/-- As many characters are left as the source has from the place on. -/
theorem length_tail (s : Scanner) : s.tail.length = s.source.length - s.pos := by
  -- What is left is the source without the characters before the place.
  rw [s.tail_eq, List.length_drop]

/-- A scanner has gone on to another place of the source, if it has moved. -/
def Onward (s s' : Scanner) : Prop := ∃ count ≤ s.tail.length, s' = s.advance count

/-- Going on and on again is going on. -/
theorem Onward.trans {first second third : Scanner} (before : first.Onward second)
    (behind : second.Onward third) : first.Onward third := by
  -- The two distances add up.
  obtain ⟨count, left, rfl⟩ := before
  obtain ⟨count', left', rfl⟩ := behind
  rw [tail_advance, List.length_drop] at left'
  exact ⟨count + count', by omega, advance_advance ..⟩

/-- Going on does not leave the source. -/
theorem Onward.inside {s s' : Scanner} (onward : s.Onward s') (inside : s.Inside) : s'.Inside := by
  -- The place and what is left make up the length of the source.
  obtain ⟨count, left, rfl⟩ := onward
  rw [length_tail] at left
  unfold Inside at *
  simp only [pos_advance, source_advance]
  omega

/-- The place and what is left make up the source. -/
theorem Inside.pos_add_length {s : Scanner} (inside : s.Inside) :
    s.pos + s.tail.length = s.source.length := by
  -- What is left is the source without the characters before the place.
  rw [length_tail]
  exact Nat.add_sub_of_le inside

/-- A scanner that goes on keeps the end of what is left in the same place. -/
theorem Onward.pos_add_length {s s' : Scanner} (onward : s.Onward s') (inside : s.Inside) :
    s'.pos + s'.tail.length = s.pos + s.tail.length := by
  -- The source and its length stay the same.
  have inside' := onward.inside inside
  obtain ⟨count, -, rfl⟩ := onward
  rw [inside'.pos_add_length, inside.pos_add_length, source_advance]

/-- Reading a form that stands here goes on by the length of it. -/
theorem scan_eq {s : Scanner} {pattern : Pattern} {length : Nat}
    (found : pattern.length? s.tail = some length) :
    s.scan pattern = (s.tail.take length, s.advance length) := by
  -- This is the case of a scan in which the form stands here.
  simp [scan, found]

/-- Reading up to a form goes on by the distance to it. -/
theorem scanUntil_eq {s : Scanner} (inside : s.Inside) (pattern : Pattern) :
    s.scanUntil pattern
      = (s.tail.take (pattern.distance s.tail), s.advance (pattern.distance s.tail)) := by
  -- With nothing left the place is at the end already.
  unfold scanUntil
  split
  · rename_i empty
    have ended : s.seek s.source.length = s := by
      refine eq_of_pos rfl ?_
      have left := s.length_tail
      rw [empty, List.length_nil] at left
      unfold Inside at inside
      simp only [seek]
      omega
    simp [empty, Pattern.distance, Pattern.distanceFrom, ended]
  · -- Otherwise the distance is gone by definition.
    rfl

/-- Reading up to a literal behind blanks stops at the cut. -/
theorem scanUntil_cut {s : Scanner} (inside : s.Inside) {literal before pad after : Text}
    (cut : Cut literal s.tail before pad after) :
    ∃ s', s.scanUntil (.closing literal) = (before, s') ∧ s.Onward s'
      ∧ s'.tail = pad ++ (literal ++ after) := by
  -- The distance is the length of what stands in front.
  refine ⟨s.advance before.length, ?_, ⟨before.length, ?_, rfl⟩, cut.drop_length⟩
  · rw [scanUntil_eq inside, cut.distance_eq, cut.whole, List.take_left]
  · rw [cut.whole, List.length_append]
    omega

/-- Reading a literal behind blanks at a cut reads both. -/
theorem scan_cut {s : Scanner} {literal pad after : Text} (cut : Cut literal s.tail [] pad after) :
    ∃ s', s.scan (.closing literal) = (pad ++ literal, s') ∧ s.Onward s' ∧ s'.tail = after := by
  have split : s.tail = (pad ++ literal) ++ after := by simp [cut.whole]
  -- Of all rows of blanks in front of the literal the longest one is counted.
  have found : (Pattern.closing literal).length? s.tail = some (pad ++ literal).length := by
    rw [List.length_append, ← cut.paddedLength?_eq, cut.whole]
    rfl
  -- The characters read are the front of what is left.
  refine ⟨s.advance (pad ++ literal).length, ?_, ⟨_, ?_, rfl⟩, ?_⟩
  · rw [scan_eq found, split, List.take_left]
  · simp [split]
  · rw [tail_advance, split, List.drop_left]

/-- Where something is left after several steps, something was left before them. -/
theorem tail_ne_nil {s s' : Scanner} (fewer : s'.tail.length ≤ s.tail.length)
    (left : 0 < s'.tail.length) : s.tail ≠ [] :=
  -- No step adds to what is left.
  List.ne_nil_of_length_pos (Nat.lt_of_lt_of_le left fewer)

/-- Where something is read, something was left. -/
theorem tail_pos_of_scan {s after : Scanner} {pattern : Pattern} {c : Char} {shown : Text}
    (read : s.scan pattern = (c :: shown, after)) : 0 < s.tail.length :=
  -- Less is left after reading it.
  Nat.lt_of_le_of_lt (Nat.zero_le _) (length_tail_scan_lt read)

/-- Where reading up to a literal leaves something, the text is cut. -/
theorem cut_of_scanUntil {s : Scanner} (inside : s.Inside) {literal : Text}
    (left : (s.scanUntil (.closing literal)).2.tail ≠ []) :
    ∃ before pad after s', Cut literal s.tail before pad after
      ∧ s.scanUntil (.closing literal) = (before, s') ∧ s.Onward s'
      ∧ s'.tail = pad ++ (literal ++ after) := by
  -- The search stopped before the end.
  rw [scanUntil_eq inside] at left
  obtain ⟨pad, after, cut⟩ := Cut.of_distance rfl (Nat.lt_of_not_le fun ended =>
    left (List.drop_eq_nil_of_le ended))
  obtain ⟨s', reached⟩ := scanUntil_cut inside cut
  exact ⟨_, pad, after, s', cut, reached⟩

/-- Where reading up to a literal and then the literal itself gives something, the text is cut. -/
theorem cut_of_scan {s after : Scanner} (inside : s.Inside) {literal shown : Text} {c : Char}
    (closed : (s.scanUntil (.closing literal)).2.scan (.closing literal) = (c :: shown, after)) :
    ∃ pad, Cut literal s.tail (s.scanUntil (.closing literal)).1 pad after.tail
      ∧ s.Onward after := by
  -- The search did not come to the end, as something was read there.
  obtain ⟨before, pad, rest, middle, cut, reached, on₁, tail₁⟩ :=
    cut_of_scanUntil inside (tail_ne_nil (Nat.le_refl _) (tail_pos_of_scan closed))
  obtain ⟨after', read, on₂, tail₂⟩ := scan_cut (tail₁ ▸ cut.here)
  -- The literal is read where the search stopped.
  rw [reached, read, Prod.mk.injEq] at closed
  obtain ⟨-, rfl⟩ := closed
  rw [reached]
  exact ⟨pad, tail₂.symm ▸ cut, on₁.trans on₂⟩

/-- Behind the opening delimiter all blanks are passed over. -/
theorem scan_opening {s : Scanner} {literal lead later : Text}
    (split : s.tail = literal ++ (lead ++ later)) (blank : lead.Blank)
    (solid : ∀ c ∈ later.head?, Text.isBlank c = false) :
    (s.scan (.opening literal)).2 = s.advance (literal.length + lead.length) := by
  -- The delimiter stands here, and the blanks behind it are counted.
  have found : (Pattern.opening literal).length? s.tail = some (literal.length + lead.length) := by
    have here : literal.isPrefixOf s.tail = true :=
      List.isPrefixOf_iff_prefix.mpr ⟨_, split.symm⟩
    rw [Pattern.length?, if_pos here, split, List.drop_left,
      Text.takeWhile_blank_append blank solid]
  rw [scan_eq found]

/-- The mark of a tag is read as it is written. -/
theorem scan_mark {s : Scanner} {sigil : Sigil} {content : Text}
    (split : s.tail = sigil.mark ++ content)
    (unmarked : sigil = .plain → ∀ c ∈ content.head?, c ∉ Pattern.sigils) :
    s.scan .sigil = (sigil.mark, s.advance sigil.mark.length) := by
  by_cases marked : sigil = .plain
  · -- What stands here is no mark, so that nothing is read.
    subst marked
    simp only [Sigil.mark, List.nil_append] at split
    have absent : Pattern.sigil.length? s.tail = none := by
      rw [split]
      cases content with
      | nil => rfl
      | cons c rest => simp [Pattern.length?, unmarked rfl c rfl]
    simp [scan, absent, Sigil.mark]
  · -- A mark is a single character, which is read.
    obtain ⟨c, mark, member, -⟩ := Sigil.mark_eq_cons marked
    have found : Pattern.sigil.length? s.tail = some 1 := by
      simp [split, mark, Pattern.length?, member]
    rw [scan_eq found, split, mark]
    rfl

/-- The blanks in front of the content of a tag are passed over. -/
theorem scan_blanks {s : Scanner} {gap content : Text} (split : s.tail = gap ++ content)
    (blank : gap.Blank) (solid : ∀ c ∈ content.head?, Text.isBlank c = false) :
    (s.scan .blanks).2 = s.advance gap.length := by
  -- All blanks that stand here are taken.
  have found : Pattern.blanks.length? s.tail = some gap.length := by
    rw [split, Pattern.length?, Text.takeWhile_blank_append blank solid]
  rw [scan_eq found]

/-- The place where the content of a tag begins. -/
def contentPlace (s : Scanner) (pair : Delimiters) (sigil : Sigil) (lead gap : Text) : Scanner :=
  s.advance (pair.opening.length + lead.length + sigil.mark.length + gap.length)

/-- What is left where the content begins is the content. -/
theorem tail_contentPlace {s : Scanner} {pair : Delimiters} {sigil : Sigil}
    {lead gap content : Text} (opens : Opens pair s.tail sigil lead gap content) :
    (s.contentPlace pair sigil lead gap).tail = content := by
  -- The lengths are those of the parts in front.
  have split : s.tail = (pair.opening ++ lead ++ sigil.mark ++ gap) ++ content := by
    simp only [opens.whole, List.append_assoc]
  rw [contentPlace, tail_advance, split, List.drop_left' (by simp [Nat.add_assoc])]

/-- A tag is read as it begins, and then its content is, up to a closing delimiter. -/
theorem readTag?_of_opens {s before after : Scanner} {pair : Delimiters} {sigil : Sigil}
    {lead gap content body shown : Text} (opens : Opens pair s.tail sigil lead gap content)
    (read : (s.contentPlace pair sigil lead gap).readBody pair sigil = (body, before))
    (closed : before.scan (.closing pair.closing) = (shown, after)) :
    s.readTag? pair = if shown = [] then none else some (⟨sigil, body, s.pos, after.pos⟩, after) := by
  have opening := scan_opening opens.whole opens.lead_blank opens.solid_mark
  -- The places behind each part are found by what the text is made of.
  have behindLead : (s.advance (pair.opening.length + lead.length)).tail
      = sigil.mark ++ (gap ++ content) := by
    rw [tail_advance, opens.whole, ← List.append_assoc, List.drop_left' (by simp)]
  have mark := scan_mark behindLead fun plain => by
    obtain ⟨rfl, unmarked⟩ := opens.unmarked plain
    exact unmarked
  have behindMark : (s.advance (pair.opening.length + lead.length + sigil.mark.length)).tail
      = gap ++ content := by
    rw [← advance_advance, tail_advance, behindLead, List.drop_left]
  have blanks := scan_blanks behindMark opens.gap_blank opens.solid
  rw [contentPlace] at read
  -- Each step of reading the front of a tag goes on by the length of the next part.
  simp only [readTag?, opening, mark, advance_advance, blanks, Sigil.ofMark_mark, read, closed]
  cases shown <;> simp

/-- A body is read up to where its content closes, and then the delimiter is. -/
theorem readBody_of_closes {s : Scanner} {pair : Delimiters} {sigil : Sigil} {body rest : Text}
    (inside : s.Inside) (closes : Closes pair s.tail sigil body rest) :
    ∃ before shown after, s.readBody pair sigil = (body, before)
      ∧ before.scan (.closing pair.closing) = (shown, after) ∧ shown ≠ []
      ∧ s.Onward after ∧ after.tail = rest := by
  -- Each kind of tag is read step by step, along with what the scanner has left after each.
  have nonempty : ∀ pad : Text, pad ++ pair.closing ≠ [] := by simp [pair.closing_ne_nil]
  cases closes with
  | ordinary noBrace noSwitch closed =>
    obtain ⟨s₁, reached, on₁, tail₁⟩ := scanUntil_cut inside closed
    obtain ⟨s₂, read, on₂, tail₂⟩ := scan_cut (tail₁ ▸ closed.here)
    refine ⟨s₁, _, s₂, ?_, read, nonempty _, on₁.trans on₂, tail₂⟩
    rw [← reached]
    cases sigil <;> first | rfl | contradiction
  | @brace body pad later slack rest ended closed =>
    obtain ⟨s₁, reached₁, on₁, tail₁⟩ := scanUntil_cut inside ended
    -- The brace is read with the blanks in front, and the delimiter stands right behind it.
    have brace : Cut ['\x7d'] s₁.tail [] pad (pair.closing ++ later) :=
      tail₁ ▸ Cut.of_solid (by decide) ended.blank
    obtain ⟨s₂, read₂, on₂, tail₂⟩ := scan_cut brace
    obtain ⟨s₃, reached₃, on₃, tail₃⟩ :=
      scanUntil_cut (on₂.inside (on₁.inside inside)) (tail₂ ▸ closed)
    obtain ⟨s₄, read₄, on₄, tail₄⟩ := scan_cut (tail₃ ▸ closed.here)
    refine ⟨s₃, _, s₄, ?_, read₄, nonempty _, on₁.trans (on₂.trans (on₃.trans on₄)), tail₄⟩
    simp only [readBody, reached₁, read₂, reached₃]
  | switch ended closed =>
    obtain ⟨s₁, reached₁, on₁, tail₁⟩ := scanUntil_cut inside ended
    obtain ⟨s₂, read₂, on₂, tail₂⟩ := scan_cut (tail₁ ▸ ended.here)
    obtain ⟨s₃, reached₃, on₃, tail₃⟩ :=
      scanUntil_cut (on₂.inside (on₁.inside inside)) (tail₂ ▸ closed)
    obtain ⟨s₄, read₄, on₄, tail₄⟩ := scan_cut (tail₃ ▸ closed.here)
    refine ⟨s₃, _, s₄, ?_, read₄, nonempty _, on₁.trans (on₂.trans (on₃.trans on₄)), tail₄⟩
    simp only [readBody, reached₁, read₂, reached₃]

/-- Without a mark for the end, a body is read up to the closing delimiter. -/
theorem readBody_ordinary (s : Scanner) (pair : Delimiters) {sigil : Sigil}
    (noBrace : sigil ≠ .brace) (noSwitch : sigil ≠ .switch) :
    s.readBody pair sigil = s.scanUntil (.closing pair.closing) := by
  -- Only braces and changes of delimiters are read in another way.
  cases sigil <;> first | rfl | contradiction

/-- Where a body and then the delimiter are read, the content closes. -/
theorem closes_of_readBody {s after : Scanner} {pair : Delimiters} {sigil : Sigil} {c : Char}
    {shown : Text} (inside : s.Inside)
    (closed : (s.readBody pair sigil).2.scan (.closing pair.closing) = (c :: shown, after)) :
    Closes pair s.tail sigil (s.readBody pair sigil).1 after.tail ∧ s.Onward after := by
  -- The delimiter was found, so that something was left before each step.
  have left := tail_pos_of_scan closed
  by_cases noSwitch : sigil = .switch
  · subst noSwitch
    simp only [readBody] at closed left ⊢
    obtain ⟨body, pad, later, s₁, ended, reached, on₁, tail₁⟩ := cut_of_scanUntil inside
      (tail_ne_nil (Nat.le_trans (length_tail_scanUntil _ _) (length_tail_scan _ _)) left)
    obtain ⟨s₂, read, on₂, tail₂⟩ := scan_cut (tail₁ ▸ ended.here)
    simp only [reached, read] at closed ⊢
    obtain ⟨slack, cut, on₃⟩ := cut_of_scan (on₂.inside (on₁.inside inside)) closed
    exact ⟨.switch ended (tail₂ ▸ cut), on₁.trans (on₂.trans on₃)⟩
  · by_cases noBrace : sigil = .brace
    · subst noBrace
      simp only [readBody] at closed left ⊢
      obtain ⟨body, pad, later, s₁, ended, reached, on₁, tail₁⟩ := cut_of_scanUntil inside
        (tail_ne_nil (Nat.le_trans (length_tail_scanUntil _ _) (length_tail_scan _ _)) left)
      have brace : Cut ['\x7d'] s₁.tail [] pad (pair.closing ++ later) :=
        tail₁ ▸ Cut.of_solid (by decide) ended.blank
      obtain ⟨s₂, read, on₂, tail₂⟩ := scan_cut brace
      simp only [reached, read] at closed ⊢
      obtain ⟨slack, cut, on₃⟩ := cut_of_scan (on₂.inside (on₁.inside inside)) closed
      -- The delimiter stands right here, so that the cut is right here too.
      rw [tail₂] at cut
      have front : _ ≤ 0 := cut.length_le Text.blank_nil rfl
      rw [List.eq_nil_of_length_eq_zero (Nat.le_zero.mp front)] at cut
      exact ⟨.brace ended cut, on₁.trans (on₂.trans on₃)⟩
    · -- Of the other tags only the delimiter is looked for.
      rw [readBody_ordinary s pair noBrace noSwitch] at closed ⊢
      obtain ⟨pad, cut, onward⟩ := cut_of_scan inside closed
      exact ⟨.ordinary noBrace noSwitch cut, onward⟩

/-- The place where the content of a tag begins is further on in the source. -/
theorem onward_contentPlace {s : Scanner} {pair : Delimiters} {sigil : Sigil}
    {lead gap content : Text} (opens : Opens pair s.tail sigil lead gap content) :
    s.Onward (s.contentPlace pair sigil lead gap) := by
  -- The parts in front of the content are parts of the text.
  refine ⟨_, ?_, rfl⟩
  simp only [opens.whole, List.length_append]
  omega

/-- A text that begins with a tag is read as this tag. -/
theorem readTag?_of_readsTag {s : Scanner} {pair : Delimiters} {sigil : Sigil} {body rest : Text}
    (inside : s.Inside) (reads : ReadsTag pair s.tail sigil body rest) :
    ∃ after, s.readTag? pair = some (⟨sigil, body, s.pos, after.pos⟩, after) ∧ s.Onward after
      ∧ after.tail = rest := by
  obtain ⟨lead, gap, content, opens, closes⟩ := reads
  -- The scanner comes to the content, and then the body is read there.
  have onward := onward_contentPlace opens
  obtain ⟨before, shown, after, body, closed, nonempty, onward', tail⟩ :=
    readBody_of_closes (onward.inside inside) ((tail_contentPlace opens).symm ▸ closes)
  -- What is read of the closing delimiter is not empty.
  exact ⟨after, by rw [readTag?_of_opens opens body closed, if_neg nonempty],
    onward.trans onward', tail⟩

/-- What is read as a tag is a text that begins with this tag. -/
theorem readsTag_of_readTag? {s after : Scanner} {pair : Delimiters} {tag : Tag}
    (inside : s.Inside) (opened : pair.opening <+: s.tail)
    (read : s.readTag? pair = some (tag, after)) :
    ReadsTag pair s.tail tag.sigil tag.body after.tail ∧ tag.start = s.pos
      ∧ tag.stop = after.pos ∧ s.Onward after := by
  -- A tag opens in one way only, and its body is read from where its content begins.
  obtain ⟨sigil, lead, gap, content, opens⟩ := Opens.exists opened
  have onward := onward_contentPlace opens
  generalize body_eq : (s.contentPlace pair sigil lead gap).readBody pair sigil = result at *
  obtain ⟨body, before⟩ := result
  cases closed : before.scan (.closing pair.closing) with
  | mk shown last =>
    rw [readTag?_of_opens opens body_eq closed] at read
    simp only [Option.ite_none_left_eq_some, Option.some.injEq, Prod.mk.injEq] at read
    -- A tag was read only where something closes it.
    obtain ⟨notEmpty, rfl, rfl⟩ := read
    obtain ⟨c, rest, rfl⟩ := List.exists_cons_of_ne_nil notEmpty
    obtain ⟨closes, onward'⟩ :=
      closes_of_readBody (onward.inside inside) (by rw [body_eq]; exact closed)
    rw [tail_contentPlace opens, body_eq] at closes
    exact ⟨⟨lead, gap, content, opens, closes⟩, rfl, rfl, onward.trans onward'⟩

end Scanner

/-- A text begins with at most one tag. -/
theorem ReadsTag.unique {pair : Delimiters} {text : Text} {sigil sigil' : Sigil}
    {body body' rest rest' : Text} (reads : ReadsTag pair text sigil body rest)
    (reads' : ReadsTag pair text sigil' body' rest') :
    sigil = sigil' ∧ body = body' ∧ rest = rest' := by
  -- The tag read at the start of the text is both of them.
  have inside : (Scanner.ofSource text).Inside := Nat.zero_le _
  obtain ⟨after, read, -, tail⟩ := Scanner.readTag?_of_readsTag inside reads
  obtain ⟨after', read', -, tail'⟩ := Scanner.readTag?_of_readsTag inside reads'
  -- The scanner gives one result.
  simp only [read, Option.some.injEq, Prod.mk.injEq, Tag.mk.injEq] at read'
  obtain ⟨⟨rfl, rfl, -⟩, rfl⟩ := read'
  exact ⟨rfl, rfl, tail.symm.trans tail'⟩

end Mustache
