import Mustache.Proofs.Tag
import Mustache.Proofs.Words
import Mustache.Template.Piece

/-!
The one way to read a source: text up to each opening delimiter, and the tag that stands there.

Cutting a source into pieces follows this reading and no other one.
-/

namespace Mustache

/-- A literal begins between two parts of a text and nowhere before. -/
structure FirstAt (literal before later : Text) : Prop where
  /-- The later part begins with the literal. -/
  here : literal <+: later
  /-- The literal does not begin in the part before. -/
  first : ∀ n < before.length, ¬ literal <+: (before ++ later).drop n

/-- The delimiters after a tag: a change of delimiters gives its first two words. -/
inductive Delimiters.Follows (pair : Delimiters) : Sigil → Text → Delimiters → Prop
  /-- No other tag changes them. -/
  | kept {sigil : Sigil} {body : Text} (noSwitch : sigil ≠ .switch) : Follows pair sigil body pair
  /-- They are changed to two words. -/
  | switched {body : Text} {next : Delimiters} {more : List Text}
      (words : Text.words body = next.opening :: next.closing :: more) :
      Follows pair .switch body next

/-- A text, at an offset of its source, reads as pieces with given delimiters, up to a fault. -/
inductive Reads : Delimiters → Nat → Text → Reading → Prop
  /-- The text holds no tag. -/
  | finished {pair : Delimiters} {offset : Nat} {text : Text} (absent : ¬ pair.opening <:+: text) :
      Reads pair offset text ⟨Piece.ofText offset text, none⟩
  /-- A tag is opened and never closed, which shows at the end. -/
  | unclosed {pair : Delimiters} {offset : Nat} {before later : Text}
      (opened : FirstAt pair.opening before later)
      (unread : ∀ sigil body rest, ¬ ReadsTag pair later sigil body rest) :
      Reads pair offset (before ++ later)
        ⟨Piece.ofText offset before, some (.unclosedTag (offset + (before ++ later).length))⟩
  /-- A tag changes the delimiters without giving two words. -/
  | invalid {pair : Delimiters} {offset : Nat} {before later body rest : Text}
      (opened : FirstAt pair.opening before later) (tag : ReadsTag pair later .switch body rest)
      (few : (Text.words body).length < 2) :
      Reads pair offset (before ++ later)
        ⟨Piece.ofText offset before,
          some (.invalidTags (Text.firstWords body) (offset + before.length))⟩
  /-- A tag comes, and the rest is read with the delimiters after it. -/
  | tag {pair next : Delimiters} {offset stop : Nat} {before later body rest : Text}
      {sigil : Sigil} {reading : Reading} (opened : FirstAt pair.opening before later)
      (tag : ReadsTag pair later sigil body rest) (follows : pair.Follows sigil body next)
      (stops : stop + rest.length = offset + (before ++ later).length)
      (more : Reads next stop rest reading) :
      Reads pair offset (before ++ later)
        ⟨Piece.ofText offset before
          ++ .tag ⟨sigil, body, offset + before.length, stop⟩ :: reading.pieces, reading.fault⟩

/-- Only a change of delimiters changes them. -/
theorem Delimiters.after?_of_ne_switch (pair : Delimiters) {sigil : Sigil} (body : Text)
    (start stop : Nat) (noSwitch : sigil ≠ .switch) :
    pair.after? ⟨sigil, body, start, stop⟩ = some pair := by
  -- Each other sigil keeps the delimiters.
  cases sigil <;> first | rfl | contradiction

/-- The delimiters after a tag are those that follow it. -/
theorem Delimiters.after?_eq_some_iff {pair next : Delimiters} {sigil : Sigil} {body : Text}
    {start stop : Nat} :
    pair.after? ⟨sigil, body, start, stop⟩ = some next ↔ pair.Follows sigil body next := by
  -- Only a change of delimiters has something to say, and all other tags keep them.
  by_cases switch : sigil = .switch
  · subst switch
    -- A change is valid if its body has two words.
    rw [after?, ofBody?_eq_some_iff]
    constructor
    · rintro ⟨more, words⟩
      exact .switched words
    · rintro (noSwitch | words)
      · contradiction
      · exact ⟨_, words⟩
  · rw [pair.after?_of_ne_switch body start stop switch, Option.some.injEq]
    constructor
    · rintro rfl
      exact .kept switch
    · rintro (_ | _)
      · rfl
      · contradiction

/-- No delimiters come after a change of delimiters with less than two words, and only then. -/
theorem Delimiters.after?_eq_none_iff {pair : Delimiters} {sigil : Sigil} {body : Text}
    {start stop : Nat} :
    pair.after? ⟨sigil, body, start, stop⟩ = none
      ↔ sigil = .switch ∧ (Text.words body).length < 2 := by
  -- Every other tag leaves the delimiters as they are.
  by_cases switch : sigil = .switch
  · subst switch
    simp [after?, ofBody?_eq_none_iff]
  · simp [pair.after?_of_ne_switch body start stop switch, switch]

namespace Pattern

/-- An opening delimiter is where it stands. -/
theorem matchesAt_opening (literal t : Text) :
    (opening literal).matchesAt t = true ↔ literal <+: t := by
  -- Any number of blanks may follow, none included.
  rw [matchesAt, length?, ← List.isPrefixOf_iff_prefix]
  split <;> simp [*]

/-- A search for an opening delimiter that does not occur comes to the end. -/
theorem distance_absent {literal t : Text} (absent : ¬ literal <:+: t) :
    (opening literal).distance t = t.length := by
  -- A place inside the text would be an occurrence.
  refine Nat.le_antisymm (distance_le _ t) (Nat.le_of_not_lt fun inside => absent ?_)
  have here := (matchesAt_opening literal _).mp (matchesAt_distance inside)
  exact here.isInfix.trans (List.drop_suffix _ t).isInfix

/-- A search for an opening delimiter stops where it first begins. -/
theorem distance_firstAt {literal before later : Text} (found : FirstAt literal before later) :
    (opening literal).distance (before ++ later) = before.length := by
  -- At its first place the literal is found, so that the search does not go further.
  have here : (opening literal).matchesAt ((before ++ later).drop before.length) = true := by
    rw [List.drop_left, matchesAt_opening]
    exact found.here
  refine Nat.le_antisymm (distance_le_of_matchesAt here) (Nat.le_of_not_lt fun early => ?_)
  -- The place where the search stops is an occurrence.
  have inside : (opening literal).distance (before ++ later) < (before ++ later).length :=
    Nat.lt_of_lt_of_le early (by simp)
  exact found.first _ early ((matchesAt_opening literal _).mp (matchesAt_distance inside))

/-- A search that stops before the end has found the first place. -/
theorem firstAt_of_distance {literal t : Text} {place : Nat}
    (stopped : (opening literal).distance t = place) (inside : place < t.length) :
    FirstAt literal (t.take place) (t.drop place) := by
  subst stopped
  refine ⟨(matchesAt_opening literal _).mp (matchesAt_distance inside), fun n early => ?_⟩
  -- Each earlier place was passed over.
  rw [List.length_take] at early
  rw [List.take_append_drop, ← matchesAt_opening, matchesAt_of_lt_distance (by omega)]
  exact Bool.false_ne_true

/-- A search that comes to the end has found nothing, since the literal is not empty. -/
theorem absent_of_distance {literal t : Text} (nonempty : literal ≠ [])
    (ended : (opening literal).distance t = t.length) : ¬ literal <:+: t := by
  rintro ⟨before, after, rfl⟩
  -- The occurrence is a place inside the text.
  have here : (opening literal).matchesAt ((before ++ literal ++ after).drop before.length)
      = true := by
    rw [List.append_assoc, List.drop_left, matchesAt_opening]
    exact List.prefix_append literal after
  have early := distance_le_of_matchesAt here
  have long : 0 < literal.length := List.length_pos_iff.mpr nonempty
  rw [ended] at early
  simp only [List.length_append] at early
  omega

end Pattern

namespace Scanner

/-- A text without the opening delimiter is all there is to read. -/
theorem readPieces_absent (most : Nat) {s : Scanner} {pair : Delimiters} (inside : s.Inside)
    (absent : ¬ pair.opening <:+: s.tail) :
    readPieces (most + 1) s pair = ⟨Piece.ofText s.pos s.tail, none⟩ := by
  -- The search comes to the end.
  rw [readPieces, scanUntil_eq inside, Pattern.distance_absent absent]
  simp [atEnd]

/-- The text before an opening delimiter is read, and then the tag. -/
theorem readPieces_opened (most : Nat) {s : Scanner} {pair : Delimiters} {before later : Text}
    (inside : s.Inside) (opened : FirstAt pair.opening before later)
    (whole : s.tail = before ++ later) :
    readPieces (most + 1) s pair =
      ((s.advance before.length).readTag? pair).elim
        ⟨Piece.ofText s.pos before, some (.unclosedTag s.source.length)⟩ fun found =>
        (pair.after? found.1).elim
          ⟨Piece.ofText s.pos before,
            some (.invalidTags (Text.firstWords found.1.body) found.1.start)⟩ fun next =>
          ⟨Piece.ofText s.pos before ++ .tag found.1 :: (readPieces most found.2 next).pieces,
            (readPieces most found.2 next).fault⟩ := by
  -- The search stops at the delimiter, and something is left there.
  have left : (s.advance before.length).atEnd = false := by
    obtain ⟨c, rest, same⟩ := List.exists_cons_of_ne_nil pair.opening_ne_nil
    obtain ⟨more, same'⟩ := opened.here
    simp [atEnd, whole, ← same', same]
  have distance := Pattern.distance_firstAt opened
  have taken : s.tail.take before.length = before := by rw [whole, List.take_left]
  rw [readPieces, scanUntil_eq inside]
  simp only [whole ▸ distance, taken, left, Bool.false_eq_true, if_false]
  cases (s.advance before.length).readTag? pair with
  | none => simp only [Option.elim_none]
  | some found =>
    -- What comes behind the tag depends on the delimiters after it.
    simp only [Option.elim_some]
    cases pair.after? found.1 <;> simp only [Option.elim_none, Option.elim_some]

/-- Cutting a source into pieces reads it. -/
theorem reads_readPieces {most : Nat} {s : Scanner} (pair : Delimiters) (inside : s.Inside)
    (enough : s.tail.length < most) : Reads pair s.pos s.tail (readPieces most s pair) := by
  -- The induction is on the number of tags that may be read; each tag leaves less of the text.
  induction most generalizing s pair with
  | zero => omega
  | succ most ih =>
    generalize stopped : (Pattern.opening pair.opening).distance s.tail = place
    have within : place ≤ s.tail.length := stopped ▸ Pattern.distance_le _ _
    by_cases ended : place = s.tail.length
    · have absent := Pattern.absent_of_distance pair.opening_ne_nil (stopped.trans ended)
      rw [readPieces_absent most inside absent]
      exact .finished absent
    have opened := Pattern.firstAt_of_distance stopped (by omega)
    have whole : s.tail = s.tail.take place ++ s.tail.drop place :=
      (List.take_append_drop place s.tail).symm
    have length : (s.tail.take place).length = place := by
      rw [List.length_take]
      omega
    have left : (s.advance place).tail = s.tail.drop place := s.tail_advance place
    generalize s.tail.take place = before at *
    generalize s.tail.drop place = later at *
    subst length
    have onward : s.Onward (s.advance before.length) := ⟨_, within, rfl⟩
    have inside' := onward.inside inside
    rw [readPieces_opened most inside opened whole]
    cases read : (s.advance before.length).readTag? pair with
    -- Where the scanner reads no tag there is none to read.
    | none =>
      have unread : ∀ sigil body rest, ¬ ReadsTag pair later sigil body rest := by
        intro sigil body rest tag
        obtain ⟨after, found, -⟩ := readTag?_of_readsTag inside' (left.symm ▸ tag)
        rw [read] at found
        cases found
      rw [← inside.pos_add_length, whole]
      exact .unclosed opened unread
    | some found =>
      obtain ⟨tag, after⟩ := found
      obtain ⟨reads, start, stop, onward'⟩ :=
        readsTag_of_readTag? inside' (left.symm ▸ opened.here) read
      obtain ⟨sigil, body, start', stop'⟩ := tag
      obtain rfl : start' = s.pos + before.length := start
      obtain rfl : stop' = after.pos := stop
      rw [left] at reads
      cases changed : pair.after? ⟨sigil, body, s.pos + before.length, after.pos⟩ with
      | none =>
        obtain ⟨rfl, few⟩ := Delimiters.after?_eq_none_iff.mp changed
        simp only [Option.elim_some, changed, Option.elim_none]
        rw [whole]
        exact .invalid opened reads few
      -- The rest is read from where the tag ends.
      | some next =>
        have shorter := length_tail_readTag read
        rw [tail_advance, List.length_drop] at shorter
        have inside'' := onward'.inside inside'
        have stops := (onward.trans onward').pos_add_length inside
        simp only [Option.elim_some, changed]
        rw [whole] at stops ⊢
        exact .tag opened reads (Delimiters.after?_eq_some_iff.mp changed) stops
          (ih next inside'' (by omega))

/-- In front of an opening delimiter that is found, the place of it is one of the source. -/
theorem advance_opened {s : Scanner} {before later : Text} (inside : s.Inside)
    (whole : s.tail = before ++ later) :
    (s.advance before.length).Inside ∧ (s.advance before.length).tail = later := by
  -- The text in front is a part of what is left.
  have onward : s.Onward (s.advance before.length) := ⟨_, by simp [whole], rfl⟩
  exact ⟨onward.inside inside, by rw [tail_advance, whole, List.drop_left]⟩

/-- A text is cut into pieces as it reads. -/
theorem readPieces_of_reads {pair : Delimiters} {offset : Nat} {text : Text} {reading : Reading}
    (reads : Reads pair offset text reading) {most : Nat} {s : Scanner} (inside : s.Inside)
    (place : s.pos = offset) (left : s.tail = text) (enough : s.tail.length < most) :
    readPieces most s pair = reading := by
  -- The induction is on the reading; a scanner is at the place of each of its parts.
  induction reads generalizing most s with
  | finished absent =>
    obtain ⟨most, rfl⟩ := Nat.exists_eq_add_of_lt enough
    subst place left
    exact readPieces_absent _ inside absent
  | unclosed opened unread =>
    obtain ⟨most, rfl⟩ := Nat.exists_eq_add_of_lt enough
    obtain ⟨inside', left'⟩ := advance_opened inside left
    subst place
    rw [readPieces_opened _ inside opened left, ← left, inside.pos_add_length]
    cases read : (s.advance _).readTag? _ with
    | none => rfl
    | some found =>
      obtain ⟨tag, -⟩ := readsTag_of_readTag? inside' (left'.symm ▸ opened.here) read
      exact absurd (left' ▸ tag) (unread _ _ _)
  | invalid opened tag few =>
    obtain ⟨most, rfl⟩ := Nat.exists_eq_add_of_lt enough
    obtain ⟨inside', left'⟩ := advance_opened inside left
    subst place
    obtain ⟨after, read, -⟩ := readTag?_of_readsTag inside' (left'.symm ▸ tag)
    rw [readPieces_opened _ inside opened left, read]
    simp only [Option.elim_some, Delimiters.after?_eq_none_iff.mpr ⟨rfl, few⟩, pos_advance,
      Option.elim_none]
  -- The scanner reads this very tag, and goes on where the reading does.
  | @tag pair next offset stop before later body rest sigil reading opened tag follows stops _ ih =>
    obtain ⟨most, rfl⟩ := Nat.exists_eq_add_of_lt enough
    obtain ⟨inside', left'⟩ := advance_opened inside left
    subst place
    obtain ⟨after, read, onward, rfl⟩ := readTag?_of_readsTag inside' (left'.symm ▸ tag)
    have shorter := length_tail_readTag read
    have place := onward.pos_add_length inside'
    rw [left'] at shorter place
    have lengths : s.tail.length = before.length + later.length := by rw [left, List.length_append]
    simp only [pos_advance, List.length_append] at place stops
    obtain rfl : after.pos = stop := by omega
    rw [readPieces_opened _ inside opened left, read]
    simp only [Option.elim_some, pos_advance, Delimiters.after?_eq_some_iff.mpr follows]
    rw [ih (onward.inside inside') rfl rfl (by omega)]

end Scanner

/-- The pieces of a source are the only reading of it. -/
theorem reads_iff {source : Text} {pair : Delimiters} {reading : Reading} :
    Reads pair 0 source reading ↔ reading = Reading.ofSource source pair := by
  have inside : (Scanner.ofSource source).Inside := Nat.zero_le _
  have enough : (Scanner.ofSource source).tail.length < source.length + 1 := Nat.lt_succ_self _
  constructor
  · -- The scanner follows any reading step by step.
    intro reads
    exact (Scanner.readPieces_of_reads reads inside rfl rfl enough).symm
  · -- The scanner begins at the start with the whole source left.
    rintro rfl
    exact Scanner.reads_readPieces pair inside enough

end Mustache
