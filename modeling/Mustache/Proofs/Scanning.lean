import Mathlib.Data.List.Infix
import Mustache.Proofs.Sections
import Mustache.Proofs.TagForm

/-!
What a scanner reads, and why reading tags comes to an end.

The texts read one after the other make up the source as far as the scanner has come. A form is
read where it stands and as far as it goes, and looking for it stops at the first such place. Each
tag takes up both of its delimiters, so that there are at most half as many as characters.
-/

namespace Mustache

namespace Pattern

/-- The texts that have a form. -/
inductive Describes : Pattern → Text → Prop
  /-- Any number of blanks. -/
  | blanks {t : Text} (blank : t.Blank) : Describes .blanks t
  /-- At least one blank. -/
  | gap {t : Text} (blank : t.Blank) (nonempty : t ≠ []) : Describes .gap t
  /-- One of the characters that say what a tag is for. -/
  | sigil {c : Char} (member : c ∈ sigils) : Describes .sigil [c]
  /-- The literal with blanks behind it. -/
  | opening {literal pad : Text} (blank : pad.Blank) : Describes (.opening literal) (literal ++ pad)
  /-- The literal with blanks in front of it. -/
  | closing {literal pad : Text} (blank : pad.Blank) : Describes (.closing literal) (pad ++ literal)

/-- What is found at the front of a text has the form. -/
theorem describes_of_length? {pattern : Pattern} {t : Text} {length : Nat}
    (found : pattern.length? t = some length) :
    ∃ front rest, t = front ++ rest ∧ front.length = length ∧ pattern.Describes front := by
  -- The blanks at the front are as many as there are.
  have split := List.takeWhile_append_dropWhile (p := Text.isBlank) (l := t)
  have front := Text.blank_takeWhile t
  cases pattern with
  | blanks =>
    simp only [length?, Option.some.injEq] at found
    exact ⟨_, _, split.symm, found, .blanks front⟩
  | gap =>
    simp only [length?] at found
    split at found
    · simp at found
    · rename_i some_blank
      simp only [Option.some.injEq] at found
      refine ⟨_, _, split.symm, found, .gap front ?_⟩
      intro none
      simp [none] at some_blank
  | sigil =>
    cases t with
    | nil => simp [length?] at found
    | cons c rest =>
      simp only [length?, Option.ite_none_right_eq_some, Option.some.injEq] at found
      exact ⟨[c], rest, rfl, found.2, .sigil found.1⟩
  | opening literal =>
    simp only [length?, Option.ite_none_right_eq_some, Option.some.injEq] at found
    obtain ⟨here, rfl⟩ := found
    obtain ⟨after, rfl⟩ := List.isPrefixOf_iff_prefix.mp here
    -- The blanks behind the literal are those that come next.
    refine ⟨literal ++ after.takeWhile Text.isBlank, after.dropWhile Text.isBlank, ?_, ?_, ?_⟩
    · simp [List.takeWhile_append_dropWhile]
    · simp
    · exact .opening (Text.blank_takeWhile after)
  | closing literal =>
    obtain ⟨pad, after, rfl, blank, rfl⟩ := paddedLength?_eq_some found
    exact ⟨pad ++ literal, after, by simp, by simp, .closing blank⟩

/-- Where a text has the form, it is found, if not a longer one. -/
theorem Describes.le_length? {pattern : Pattern} {front : Text}
    (describes : pattern.Describes front) (rest : Text) :
    ∃ length, pattern.length? (front ++ rest) = some length ∧ front.length ≤ length := by
  -- Each form takes all the blanks that it can.
  cases describes with
  | blanks blank =>
    refine ⟨_, rfl, ?_⟩
    simp [List.takeWhile_append_of_pos blank]
  | gap blank nonempty =>
    have long := List.length_pos_iff.mpr nonempty
    -- At least the blanks of the text itself are counted.
    have counted : front.length ≤ ((front ++ rest).takeWhile Text.isBlank).length := by
      simp [List.takeWhile_append_of_pos blank]
    refine ⟨((front ++ rest).takeWhile Text.isBlank).length, ?_, counted⟩
    simp only [length?]
    split
    · omega
    · rfl
  | sigil member => exact ⟨1, by simp [length?, member], by simp⟩
  | @opening literal pad blank =>
    have here : literal.isPrefixOf (literal ++ pad ++ rest) = true :=
      List.isPrefixOf_iff_prefix.mpr ⟨pad ++ rest, by simp⟩
    refine ⟨_, by rw [length?, if_pos here], ?_⟩
    simp [List.takeWhile_append_of_pos blank]
  | closing blank =>
    obtain ⟨length, found, long⟩ := le_paddedLength? _ rest blank
    exact ⟨length, by simpa [length?] using found, by simpa using long⟩

/-- A form is at a place where some text that has the form stands, and only there. -/
theorem matchesAt_iff {pattern : Pattern} {t : Text} :
    pattern.matchesAt t = true ↔ ∃ front, front <+: t ∧ pattern.Describes front := by
  rw [matchesAt, Option.isSome_iff_exists]
  constructor
  · -- A length that is found is that of a text at the front, and of one that has the form.
    rintro ⟨length, found⟩
    obtain ⟨front, rest, rfl, -, describes⟩ := describes_of_length? found
    exact ⟨front, List.prefix_append front rest, describes⟩
  · -- A text with the form is counted, as its length or a greater one.
    rintro ⟨front, ⟨rest, rfl⟩, describes⟩
    obtain ⟨length, found, -⟩ := describes.le_length? rest
    exact ⟨length, found⟩

end Pattern

namespace Scanner

/-- A way in which a scanner is asked to move. -/
inductive Move where
  /-- Read a form that stands right here. -/
  | scan (pattern : Pattern)
  /-- Read up to the first place of a form. -/
  | scanUntil (pattern : Pattern)

/-- What a scanner reads when it moves, and where it is then. -/
def move (s : Scanner) : Move → Text × Scanner
  | .scan pattern => s.scan pattern
  | .scanUntil pattern => s.scanUntil pattern

/-- What a scanner reads in some moves one after the other, and where it is then. -/
def moveAll (s : Scanner) : List Move → List Text × Scanner
  | [] => ([], s)
  | first :: others =>
    let (text, next) := s.move first
    let (texts, last) := next.moveAll others
    (text :: texts, last)

/-- A move reads the text between the place before it and the place behind it. -/
theorem move_eq {s : Scanner} (inside : s.Inside) (move : Move) :
    ∃ count ≤ s.tail.length, s.move move = (s.tail.take count, s.advance count) := by
  cases move with
  | scan pattern =>
    cases found : pattern.length? s.tail with
    | none => exact ⟨0, Nat.zero_le _, by simp [Scanner.move, scan, found]⟩
    | some length =>
      -- The form does not go beyond the end.
      obtain ⟨front, rest, whole, rfl, -⟩ := Pattern.describes_of_length? found
      exact ⟨front.length, by simp [whole], by simp [Scanner.move, scan, found]⟩
  | scanUntil pattern =>
    exact ⟨_, pattern.distance_le s.tail, scanUntil_eq inside pattern⟩

/-- The texts read in some moves are what stands between the places before and behind them. -/
theorem moveAll_eq {s : Scanner} (inside : s.Inside) (moves : List Move) :
    ∃ count ≤ s.tail.length,
      (s.moveAll moves).1.flatten = s.tail.take count ∧ (s.moveAll moves).2 = s.advance count := by
  -- The induction is on the moves, each of which takes some characters of what is left.
  induction moves generalizing s with
  | nil => exact ⟨0, Nat.zero_le _, by simp [moveAll]⟩
  | cons first others ih =>
    obtain ⟨count, within, moved⟩ := move_eq inside first
    have onward : s.Onward (s.advance count) := ⟨count, within, rfl⟩
    obtain ⟨more, within', texts, last⟩ := ih (onward.inside inside)
    -- The later moves begin where the first one ends.
    have lengths : (s.advance count).tail.length = s.tail.length - count := by simp
    refine ⟨count + more, by omega, ?_, ?_⟩
    · simp only [moveAll, moved, List.flatten_cons, texts]
      rw [tail_advance, List.take_add]
    · simp only [moveAll, moved, last, advance_advance]

/-- A form is read as far as it goes where it stands, and elsewhere the scanner stays. -/
structure ReadsForm (s : Scanner) (pattern : Pattern) : Prop where
  /-- Of all texts here that have the form the longest one is read. -/
  present : ∀ front, front <+: s.tail → pattern.Describes front →
    ∃ text, text <+: s.tail ∧ pattern.Describes text ∧ front.length ≤ text.length
      ∧ s.scan pattern = (text, s.advance text.length)
  /-- Where no text has the form nothing is read. -/
  absent : (∀ front, front <+: s.tail → ¬ pattern.Describes front) → s.scan pattern = ([], s)

/-- Looking for a form stops at the first place where it is read, or else at the end. -/
structure FindsForm (s : Scanner) (pattern : Pattern) : Prop where
  /-- The form is read at the place, unless that is the end. -/
  stops : (s.scanUntil pattern).2.atEnd = true ∨
    ∃ text, pattern.Describes text ∧ (s.scanUntil pattern).2.scan pattern
      = (text, (s.scanUntil pattern).2.advance text.length)
  /-- At no place that is passed over does a text have the form. -/
  first : ∀ n < (s.scanUntil pattern).1.length, ∀ front, front <+: s.tail.drop n →
    ¬ pattern.Describes front

/-- A scanner reads each form as far as it goes. -/
theorem readsForm (s : Scanner) (pattern : Pattern) : s.ReadsForm pattern where
  present := by
    rintro front ⟨rest, whole⟩ describes
    obtain ⟨length, found, long⟩ := describes.le_length? rest
    rw [whole] at found
    obtain ⟨text, more, split, rfl, described⟩ := Pattern.describes_of_length? found
    -- What is read are the characters that were counted.
    refine ⟨text, ⟨more, split.symm⟩, described, long, ?_⟩
    rw [scan_eq found, split, List.take_left]
  -- Whatever the scanner had found would be of the form.
  absent := by
    intro none
    have missing : pattern.length? s.tail = Option.none := by
      by_contra found
      obtain ⟨length, found⟩ := Option.ne_none_iff_exists'.mp found
      obtain ⟨front, rest, whole, -, describes⟩ := Pattern.describes_of_length? found
      exact none front ⟨rest, whole.symm⟩ describes
    simp [scan, missing]

/-- A scanner finds the first place of each form. -/
theorem findsForm {s : Scanner} (inside : s.Inside) (pattern : Pattern) :
    s.FindsForm pattern := by
  constructor
  · rw [scanUntil_eq inside]
    by_cases ended : pattern.distance s.tail < s.tail.length
    · -- The search stopped where the form is, which is then read.
      right
      obtain ⟨front, here, describes⟩ :=
        Pattern.matchesAt_iff.mp (Pattern.matchesAt_distance ended)
      have forms := readsForm (s.advance (pattern.distance s.tail)) pattern
      obtain ⟨text, -, described, -, read⟩ := forms.present front here describes
      exact ⟨text, described, read⟩
    · left
      simpa [atEnd] using ended
  · -- A place that was passed over had nothing of the form.
    intro n early front here describes
    rw [scanUntil_eq inside, List.length_take] at early
    have passed := Pattern.matchesAt_of_lt_distance (Nat.lt_of_lt_of_le early (Nat.min_le_left ..))
    rw [Pattern.matchesAt_iff.mpr ⟨front, here, describes⟩] at passed
    simp at passed

/-- A round of reading: the text up to a tag and the tag, after which its delimiters hold. -/
inductive Round : Scanner × Delimiters → Scanner × Delimiters → Prop
  /-- An opening delimiter is found, and the tag that stands there is closed. -/
  | tag {s found after : Scanner} {pair next : Delimiters} {text : Text} {tag : Tag}
      (searched : s.scanUntil (.opening pair.opening) = (text, found))
      (opened : found.atEnd = false) (read : found.readTag? pair = some (tag, after))
      (follows : pair.after? tag = some next) : Round (s, pair) (after, next)

/-- Reading a tag goes on by at least the lengths of its delimiters. -/
theorem onward_of_readTag? {s after : Scanner} {pair : Delimiters} {tag : Tag} (inside : s.Inside)
    (opened : pair.opening <+: s.tail) (read : s.readTag? pair = some (tag, after)) :
    s.Onward after
      ∧ after.tail.length + pair.opening.length + pair.closing.length ≤ s.tail.length := by
  -- What was read is a tag with a full text of its own.
  obtain ⟨reads, -, -, onward⟩ := readsTag_of_readTag? inside opened read
  obtain ⟨written, whole, _, _, _, _, parts⟩ := reads.tagForm
  -- Both delimiters are parts of the tag.
  refine ⟨onward, ?_⟩
  rw [whole, parts.whole]
  simp only [List.length_append]
  omega

/-- A round goes on by at least the lengths of the delimiters. -/
theorem Round.onward {s after : Scanner} {pair next : Delimiters} (inside : s.Inside)
    (round : Round (s, pair) (after, next)) :
    s.Onward after
      ∧ after.tail.length + pair.opening.length + pair.closing.length ≤ s.tail.length := by
  cases round with
  -- The text in front of the tag is passed over, and then the tag itself.
  | tag searched opened read follows =>
    rw [scanUntil_eq inside, Prod.mk.injEq] at searched
    obtain ⟨-, rfl⟩ := searched
    -- The search stopped before the end, so that the delimiter stands there.
    have within := Pattern.distance_le (.opening pair.opening) s.tail
    have left : Pattern.distance (.opening pair.opening) s.tail < s.tail.length := by
      simpa [atEnd] using opened
    have here := (Pattern.matchesAt_opening _ _).mp (Pattern.matchesAt_distance left)
    have before : s.Onward (s.advance _) := ⟨_, within, rfl⟩
    obtain ⟨behind, shorter⟩ := onward_of_readTag? (before.inside inside) here read
    refine ⟨before.trans behind, ?_⟩
    rw [length_tail_advance] at shorter
    omega

/-- Some rounds of reading one after the other. -/
inductive Rounds : Nat → Scanner × Delimiters → Scanner × Delimiters → Prop
  /-- No tag has been read. -/
  | none {state : Scanner × Delimiters} : Rounds 0 state state
  /-- A tag is read before the others. -/
  | next {count : Nat} {state middle last : Scanner × Delimiters} (first : Round state middle)
      (others : Rounds count middle last) : Rounds (count + 1) state last

/-- Rounds stay in the source, and each of them takes up at least two characters. -/
theorem Rounds.onward {count : Nat} {state last : Scanner × Delimiters}
    (rounds : Rounds count state last) (inside : state.1.Inside) :
    state.1.Onward last.1 ∧ last.1.tail.length + 2 * count ≤ state.1.tail.length := by
  -- The induction is on the rounds, each of which goes on from where the last one ended.
  induction rounds with
  | none => exact ⟨⟨0, Nat.zero_le _, by simp⟩, by simp⟩
  | @next count state middle last first _ ih =>
    obtain ⟨onward, shorter⟩ := first.onward inside
    obtain ⟨onward', shorter'⟩ := ih (onward.inside inside)
    -- Neither delimiter is empty.
    have opens := List.length_pos_iff.mpr state.2.opening_ne_nil
    have closes := List.length_pos_iff.mpr state.2.closing_ne_nil
    exact ⟨onward.trans onward', by omega⟩

/-- Cutting a source into pieces reads one tag in each round, up to where no round is left. -/
theorem exists_rounds {most : Nat} {s : Scanner} (pair : Delimiters) (inside : s.Inside)
    (enough : s.tail.length < most) :
    ∃ last, Rounds (Piece.tags (readPieces most s pair).pieces).length (s, pair) last
      ∧ ∀ next, ¬ Round last next := by
  -- The induction is on the number of tags that may be read.
  induction most generalizing s pair with
  | zero => omega
  | succ most ih =>
    generalize searched : s.scanUntil (.opening pair.opening) = result
    obtain ⟨text, found⟩ := result
    -- Where the tag is not read with delimiters for what follows, this is the last place.
    have ends : (∀ next, ¬ Round (s, pair) next) →
        Piece.tags (readPieces (most + 1) s pair).pieces = [] →
        ∃ last, Rounds (Piece.tags (readPieces (most + 1) s pair).pieces).length (s, pair) last
          ∧ ∀ next, ¬ Round last next := by
      intro stuck untagged
      exact ⟨(s, pair), by simpa [untagged] using Rounds.none, stuck⟩
    cases opened : found.atEnd with
    | true =>
      apply ends
      · rintro next ⟨searched', opened', -, -⟩
        simp_all
      · simp [readPieces, searched, opened, Piece.tags_ofText]
    | false =>
      cases read : found.readTag? pair with
      | none =>
        apply ends
        · rintro next ⟨searched', -, read', -⟩
          simp_all
        · simp [readPieces, searched, opened, read, Piece.tags_ofText]
      | some result =>
        obtain ⟨tag, after⟩ := result
        cases follows : pair.after? tag with
        | none =>
          apply ends
          · rintro next ⟨searched', -, read', follows'⟩
            simp_all
          · simp [readPieces, searched, opened, read, follows, Piece.tags_ofText]
        -- The round is taken, and the others begin behind its tag.
        | some next =>
          have round : Round (s, pair) (after, next) := .tag searched opened read follows
          obtain ⟨onward, shorter⟩ := round.onward inside
          have long := List.length_pos_iff.mpr pair.opening_ne_nil
          obtain ⟨last, rounds, stuck⟩ := ih next (onward.inside inside) (by omega)
          refine ⟨last, ?_, stuck⟩
          simpa [readPieces, searched, opened, read, follows, Piece.tags_append, Piece.tags_ofText,
            Piece.tags_tag] using rounds.next round

/-- What a scanner has read of a source, and what it does where it stands. -/
structure Accounts (source : Text) (texts : List Text) (s : Scanner) : Prop where
  /-- The texts that were read are the source up to the place. -/
  read : texts.flatten = source.take s.pos
  /-- What is left follows them. -/
  whole : source = texts.flatten ++ s.tail
  /-- The place is not past the end. -/
  within : s.pos ≤ source.length
  /-- No move goes back. -/
  forward : ∀ move, s.pos ≤ (s.move move).2.pos
  /-- Each form is read as far as it goes. -/
  reads : ∀ pattern, s.ReadsForm pattern
  /-- The first place of each form is found. -/
  finds : ∀ pattern, s.FindsForm pattern

/-- A scanner that begins at the start of a source accounts for all of it, however it moves. -/
theorem accounts_moveAll (source : Text) (moves : List Move) :
    Accounts source ((ofSource source).moveAll moves).1 ((ofSource source).moveAll moves).2 := by
  have start : (ofSource source).Inside := Nat.zero_le _
  -- All moves together advance the scanner by some count, which is the place at the end.
  obtain ⟨count, within, texts, last⟩ := moveAll_eq start moves
  have onward : (ofSource source).Onward ((ofSource source).advance count) := ⟨count, within, rfl⟩
  have inside := onward.inside start
  have place : ((ofSource source).advance count).pos = count := Nat.zero_add count
  rw [last]
  refine ⟨?_, ?_, place.symm ▸ within, ?_, readsForm _, findsForm inside⟩
  · rw [texts, place]
    rfl
  · -- What was read and what is left are cut from the source at the place.
    rw [texts]
    exact (List.take_append_drop count source).symm
  · intro move
    obtain ⟨more, -, moved⟩ := move_eq inside move
    simp [moved]

/--
A scanner neither loses nor repeats anything, and reading tags comes to an end.

Whatever it was asked to read, the texts are the source up to where it stands, and it never goes
back. From there it reads each form as far as it goes, and finds the first place of each form. A
round of reading goes on by at least the lengths of the delimiters, and after as many rounds as the
source has tags there is none left.
-/
theorem accounts_for_source (source : Text) (pair : Delimiters) :
    (∀ moves,
        Accounts source ((ofSource source).moveAll moves).1 ((ofSource source).moveAll moves).2)
      ∧ (∀ count s p s' p', Rounds count (ofSource source, pair) (s, p) → Round (s, p) (s', p') →
          s.pos + p.opening.length + p.closing.length ≤ s'.pos)
      ∧ (∀ count last, Rounds count (ofSource source, pair) last → 2 * count ≤ source.length)
      ∧ ∃ last, Rounds (Piece.tags (Reading.ofSource source pair).pieces).length
          (ofSource source, pair) last ∧ ∀ next, ¬ Round last next := by
  have start : (ofSource source).Inside := Nat.zero_le _
  refine ⟨accounts_moveAll source, ?_, ?_, exists_rounds pair start (Nat.lt_succ_self _)⟩
  · intro count s p s' p' rounds round
    have inside : s.Inside := (rounds.onward start).1.inside start
    obtain ⟨onward, shorter⟩ := round.onward inside
    -- The place has moved by as much as is taken up.
    have ends := onward.pos_add_length inside
    omega
  · -- All rounds together cannot take up more than the source has.
    intro count last rounds
    obtain ⟨-, shorter⟩ := rounds.onward start
    have whole : (ofSource source).tail.length = source.length := rfl
    simp only at shorter
    omega

/-- A name between blanks is read in one round, behind which there is no other. -/
theorem accounts_for_source_name :
    let source : Text := "a \x7b\x7b b \x7d\x7d".toList
    (∃ last, Rounds 1 (ofSource source, .default) last ∧ ∀ next, ¬ Round last next)
      ∧ 2 * 1 ≤ source.length := by
  obtain ⟨-, -, few, last, rounds, stuck⟩ :=
    accounts_for_source "a \x7b\x7b b \x7d\x7d".toList .default
  -- There is one tag, and so one round.
  have one : (Piece.tags (Reading.ofSource "a \x7b\x7b b \x7d\x7d".toList .default).pieces).length
      = 1 := by decide +kernel
  rw [one] at rounds
  exact ⟨⟨last, rounds, stuck⟩, few 1 last rounds⟩

end Scanner

end Mustache
