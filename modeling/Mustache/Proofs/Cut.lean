import Mustache.Pattern

/-! A text cut at the first place of a literal behind blanks, which is where a search for it stops. -/

namespace Mustache

/-- A text that consists of blanks, if of anything. -/
def Text.Blank (t : Text) : Prop := ∀ c ∈ t, Text.isBlank c = true

instance (t : Text) : Decidable t.Blank := decidable_of_iff (t.all Text.isBlank) List.all_eq_true

/-- The empty text consists of blanks. -/
@[simp] theorem Text.blank_nil : Text.Blank [] := by
  -- There is no character to look at.
  simp [Text.Blank]

/-- A text consists of blanks when its first character and the others do. -/
@[simp] theorem Text.blank_cons (c : Char) (t : Text) :
    Text.Blank (c :: t) ↔ Text.isBlank c = true ∧ t.Blank := by
  -- The characters are the first one and the others.
  simp [Text.Blank]

/-- Two texts together consist of blanks when each of them does. -/
@[simp] theorem Text.blank_append (s t : Text) : Text.Blank (s ++ t) ↔ s.Blank ∧ t.Blank := by
  -- A character of the whole is one of either part.
  simp only [Text.Blank, List.mem_append]
  constructor
  · intro all
    exact ⟨fun c member => all c (.inl member), fun c member => all c (.inr member)⟩
  · rintro ⟨left, right⟩ c (member | member)
    · exact left c member
    · exact right c member

/-- The blanks that a text begins with are blanks. -/
theorem Text.blank_takeWhile (t : Text) : Text.Blank (t.takeWhile Text.isBlank) := by
  -- Characters are taken only as long as they are blanks.
  intro c member
  exact List.all_eq_true.mp List.all_takeWhile c member

/-- What is left behind the blanks a text begins with does not begin with one. -/
theorem Text.head?_dropWhile_blank (t : Text) :
    ∀ c ∈ (t.dropWhile Text.isBlank).head?, Text.isBlank c = false := by
  -- The first character that stays is the one that is no blank.
  intro c member
  have stays := List.head?_dropWhile_not Text.isBlank t
  rw [member] at stays
  simpa using stays

/-- Blanks that something else ends are all that is taken while there are blanks. -/
theorem Text.takeWhile_blank_append {pad later : Text} (blank : pad.Blank)
    (stop : ∀ c ∈ later.head?, Text.isBlank c = false) :
    (pad ++ later).takeWhile Text.isBlank = pad := by
  -- Nothing more is taken from where the blanks end.
  rw [List.takeWhile_append_of_pos blank]
  have ended : later.takeWhile Text.isBlank = [] := by
    cases later with
    | nil => rfl
    | cons c rest => simp [stop c rfl]
  rw [ended, List.append_nil]

/-- Where two texts both begin with blanks that something else ends, the blanks are the same. -/
theorem Text.blanks_unique {pad pad' later later' : Text} (blank : pad.Blank) (blank' : pad'.Blank)
    (stop : ∀ c ∈ later.head?, Text.isBlank c = false)
    (stop' : ∀ c ∈ later'.head?, Text.isBlank c = false)
    (same : pad ++ later = pad' ++ later') : pad = pad' ∧ later = later' := by
  -- The first character that is no blank stands at one place only.
  induction pad generalizing pad' with
  | nil =>
    cases pad' with
    | nil => exact ⟨rfl, same⟩
    -- Where the blanks of one end at once, the other begins with no blank either.
    | cons c rest =>
      have never := stop c (by rw [List.nil_append] at same; simp [same])
      simp [(Text.blank_cons c rest).mp blank'] at never
  | cons c pad ih =>
    cases pad' with
    | nil =>
      have never := stop' c (by rw [List.nil_append] at same; simp [← same])
      simp [(Text.blank_cons c pad).mp blank] at never
    | cons c' rest =>
      simp only [List.cons_append, List.cons.injEq] at same
      obtain ⟨rfl, same⟩ := same
      obtain ⟨rfl, rest⟩ := ih ((Text.blank_cons ..).mp blank).2
        ((Text.blank_cons ..).mp blank').2 same
      exact ⟨rfl, rest⟩

namespace Pattern

/-- A front of blanks and a literal has the length of both. -/
theorem paddedLength?_eq_some {literal t : Text} {length : Nat}
    (found : paddedLength? literal t = some length) :
    ∃ pad after, t = pad ++ (literal ++ after) ∧ pad.Blank
      ∧ length = pad.length + literal.length := by
  -- Each blank passed over makes the padding longer by one.
  induction t generalizing length with
  | nil =>
    simp only [paddedLength?, Option.ite_none_right_eq_some, Option.some.injEq] at found
    obtain ⟨rfl, rfl⟩ := found
    exact ⟨[], [], rfl, Text.blank_nil, rfl⟩
  | cons c rest ih =>
    simp only [paddedLength?, Option.or_eq_some_iff, Option.map_eq_some_iff,
      Option.ite_none_right_eq_some, Option.some.injEq] at found
    rcases found with ⟨shorter, ⟨blank, found⟩, rfl⟩ | ⟨-, here, rfl⟩
    · obtain ⟨pad, after, rfl, padded, rfl⟩ := ih found
      refine ⟨c :: pad, after, rfl, by simp [blank, padded], ?_⟩
      simp only [List.length_cons]
      omega
    · -- The literal stands right here, behind no blank.
      obtain ⟨after, same⟩ := List.isPrefixOf_iff_prefix.mp here
      exact ⟨[], after, same.symm, Text.blank_nil, by simp⟩

/-- A front of blanks and a literal is found, if not a longer one. -/
theorem le_paddedLength? (literal : Text) {pad : Text} (after : Text) (padded : pad.Blank) :
    ∃ length, paddedLength? literal (pad ++ (literal ++ after)) = some length
      ∧ pad.length + literal.length ≤ length := by
  induction pad with
  | nil =>
    rw [List.nil_append]
    cases t : literal ++ after with
    | nil =>
      obtain ⟨rfl, rfl⟩ := List.append_eq_nil_iff.mp t
      exact ⟨0, rfl, by simp⟩
    | cons c rest =>
      -- The literal stands right here, and behind a blank it could only stand further on.
      have here : literal.isPrefixOf (c :: rest) = true :=
        List.isPrefixOf_iff_prefix.mpr ⟨after, t⟩
      simp only [paddedLength?, here, if_true, List.length_nil, Nat.zero_add]
      cases behind : (if Text.isBlank c then paddedLength? literal rest else none) with
      | none => exact ⟨literal.length, rfl, Nat.le_refl _⟩
      | some shorter =>
        rw [Option.ite_none_right_eq_some] at behind
        obtain ⟨pad, after, -, -, rfl⟩ := paddedLength?_eq_some behind.2
        exact ⟨pad.length + literal.length + 1, rfl, by omega⟩
  -- With a blank in front both what is found and what is asked for are longer by one.
  | cons c pad ih =>
    obtain ⟨blank, padded⟩ := (Text.blank_cons c pad).mp padded
    obtain ⟨length, found, long⟩ := ih padded
    refine ⟨length + 1, ?_, ?_⟩
    · simp [paddedLength?, blank, found]
    · simp only [List.length_cons]
      omega

/-- A form is at none of the places that a search for it passes over. -/
theorem matchesAt_of_lt_distance {pattern : Pattern} {t : Text} {n : Nat}
    (passed : n < pattern.distance t) : pattern.matchesAt (t.drop n) = false := by
  -- Where the form is, the distance is zero, and elsewhere it is one more than from the next place.
  induction t generalizing n with
  | nil => simp [distance, distanceFrom] at passed
  | cons c rest ih =>
    rw [distance_cons] at passed
    split at passed
    · omega
    · rename_i absent
      cases n with
      | zero => simpa using absent
      | succ n => exact ih (by omega)

/-- A form is at the place where a search for it stops before the end. -/
theorem matchesAt_distance {pattern : Pattern} {t : Text} (inside : pattern.distance t < t.length) :
    pattern.matchesAt (t.drop (pattern.distance t)) = true := by
  -- The search goes on for as long as the form is not there.
  induction t with
  | nil => simp at inside
  | cons c rest ih =>
    rw [distance_cons] at inside ⊢
    split
    · rename_i here
      exact here
    · rename_i absent
      rw [if_neg absent] at inside
      exact ih (by simpa using inside)

/-- A search does not go past a place where the form is. -/
theorem distance_le_of_matchesAt {pattern : Pattern} {t : Text} {n : Nat}
    (here : pattern.matchesAt (t.drop n) = true) : pattern.distance t ≤ n := by
  -- Otherwise the place would be one that is passed over.
  refine Nat.le_of_not_lt fun passed => ?_
  rw [matchesAt_of_lt_distance passed] at here
  exact Bool.false_ne_true here

end Pattern

/--
A text cut at the first place of a literal behind blanks.

The blanks are as many as leave the literal intact, and what comes before them does not end in one.
-/
structure Cut (literal text before pad after : Text) : Prop where
  /-- The four parts follow each other in the text. -/
  whole : text = before ++ (pad ++ (literal ++ after))
  /-- What stands in front of the literal are blanks. -/
  blank : pad.Blank
  /-- No blank stands in front of these blanks. -/
  tight : ∀ c ∈ before.getLast?, Text.isBlank c = false
  /-- The literal does not begin further to the front. -/
  first : ∀ n < before.length, ¬ literal <+: text.drop n
  /-- No longer row of blanks is followed by the literal. -/
  longest : ∀ pad' after', Text.Blank pad' →
    pad' ++ (literal ++ after') = pad ++ (literal ++ after) → pad'.length ≤ pad.length

/-- A literal behind blanks is a place where the form of the two is. -/
theorem Pattern.matchesAt_padded (literal : Text) {pad : Text} (after : Text) (padded : pad.Blank) :
    (Pattern.closing literal).matchesAt (pad ++ (literal ++ after)) = true := by
  -- The form is found, whatever its length.
  obtain ⟨length, found, -⟩ := Pattern.le_paddedLength? literal after padded
  simp [matchesAt, length?, found]

/-- Where the form of blanks and a literal is, the two stand. -/
theorem Pattern.padded_of_matchesAt {literal t : Text}
    (here : (Pattern.closing literal).matchesAt t = true) :
    ∃ pad after, Text.Blank pad ∧ t = pad ++ (literal ++ after) := by
  -- The form has some length, which is that of blanks and the literal.
  obtain ⟨length, found⟩ := Option.isSome_iff_exists.mp here
  obtain ⟨pad, after, split, blank, -⟩ := Pattern.paddedLength?_eq_some found
  exact ⟨pad, after, blank, split⟩

namespace Cut

variable {literal text before pad after : Text}

/-- What is left from the cut on. -/
theorem drop_length (cut : Cut literal text before pad after) :
    text.drop before.length = pad ++ (literal ++ after) := by
  -- The part in front of the cut is dropped.
  rw [cut.whole, List.drop_left]

/-- The text from the cut on is cut at its front. -/
theorem here (cut : Cut literal text before pad after) :
    Cut literal (pad ++ (literal ++ after)) [] pad after where
  whole := rfl
  blank := cut.blank
  -- Nothing is left in front, so that only the blanks count.
  tight := by simp
  first := by simp
  longest := cut.longest

/-- Nowhere before the cut do blanks and the literal stand. -/
theorem length_le (cut : Cut literal text before pad after) {place : Nat} {gap later : Text}
    (blank : gap.Blank) (split : text.drop place = gap ++ (literal ++ later)) :
    before.length ≤ place := by
  refine Nat.le_of_not_lt fun early => ?_
  -- The literal cannot begin before the cut, so that the last character before it is in the gap.
  have beyond : before.length ≤ place + gap.length := by
    refine Nat.le_of_not_lt fun within => cut.first (place + gap.length) within ?_
    rw [← List.drop_drop, split, List.drop_left]
    exact List.prefix_append literal later
  have inside : before.length - 1 - place < gap.length := by omega
  have last : before.getLast? = some gap[before.length - 1 - place] := calc
    before.getLast? = text[before.length - 1]? := by
      rw [List.getLast?_eq_getElem?, cut.whole, List.getElem?_append_left (by omega)]
    _ = (text.drop place)[before.length - 1 - place]? := by
      rw [List.getElem?_drop]
      congr 1
      omega
    _ = some gap[before.length - 1 - place] := by
      rw [split, List.getElem?_append_left inside, List.getElem?_eq_getElem inside]
  -- A character in the gap would be blank, but the last one before the cut is not.
  have shows := cut.tight _ last
  rw [blank _ (List.getElem_mem inside)] at shows
  exact Bool.noConfusion shows

/-- A search for blanks and the literal stops at the cut. -/
theorem distance_eq (cut : Cut literal text before pad after) :
    (Pattern.closing literal).distance text = before.length := by
  -- At the cut there are blanks and the literal, so that the search stops there at the latest.
  have here : (Pattern.closing literal).matchesAt (text.drop before.length) = true := by
    rw [cut.drop_length]
    exact Pattern.matchesAt_padded literal after cut.blank
  refine Nat.le_antisymm (Pattern.distance_le_of_matchesAt here) (Nat.le_of_not_lt fun early => ?_)
  -- Had the search stopped earlier, blanks and the literal would stand there.
  have inside : (Pattern.closing literal).distance text < text.length :=
    Nat.lt_of_lt_of_le early (by simp [cut.whole])
  obtain ⟨gap, later, blank, split⟩ := Pattern.padded_of_matchesAt (Pattern.matchesAt_distance inside)
  have late := cut.length_le blank split
  omega

/-- Blanks and the literal are found to be as long as at the cut. -/
theorem paddedLength?_eq (cut : Cut literal text before pad after) :
    Pattern.paddedLength? literal (pad ++ (literal ++ after))
      = some (pad.length + literal.length) := by
  -- The cut has the longest row of blanks, and the form found has no shorter one.
  obtain ⟨length, found, long⟩ := Pattern.le_paddedLength? literal after cut.blank
  obtain ⟨pad', after', same, blank, rfl⟩ := Pattern.paddedLength?_eq_some found
  have short := cut.longest pad' after' blank same.symm
  -- Both have the same length, the one that was asked for.
  rw [found]
  congr 1
  omega

/-- There is at most one such cut of a text. -/
theorem unique (cut : Cut literal text before pad after) {before' pad' after' : Text}
    (cut' : Cut literal text before' pad' after') :
    before = before' ∧ pad = pad' ∧ after = after' := by
  -- The search gives the place, and the longest padding gives the rest.
  have front : before.length = before'.length := by rw [← cut.distance_eq, cut'.distance_eq]
  obtain ⟨rfl, rest⟩ := List.append_inj (cut.whole.symm.trans cut'.whole) front
  -- Either padding is the longest one.
  have lengths : pad.length = pad'.length :=
    Nat.le_antisymm (cut'.longest pad after cut.blank rest)
      (cut.longest pad' after' cut'.blank rest.symm)
  obtain ⟨rfl, rest⟩ := List.append_inj rest lengths
  exact ⟨rfl, rfl, List.append_cancel_left (List.append_cancel_left rest)⟩

/-- A text in which a search stops before the end is cut there. -/
theorem of_distance {place : Nat} (stopped : (Pattern.closing literal).distance text = place)
    (inside : place < text.length) : ∃ pad after, Cut literal text (text.take place) pad after := by
  -- The search stops at the first place where blanks and the literal stand.
  have stands := Pattern.matchesAt_distance (stopped ▸ inside)
  rw [stopped] at stands
  obtain ⟨length, found⟩ := Option.isSome_iff_exists.mp stands
  obtain ⟨pad, after, split, blank, rfl⟩ := Pattern.paddedLength?_eq_some found
  have passed : ∀ n < place, (Pattern.closing literal).matchesAt (text.drop n) = false :=
    fun n early => Pattern.matchesAt_of_lt_distance (stopped ▸ early)
  have front : (text.take place).length = place := by
    rw [List.length_take]
    omega
  refine ⟨pad, after, ?_, blank, ?_, ?_, ?_⟩
  · rw [← split, List.take_append_drop]
  · -- A blank in front would have been part of the place.
    intro c last
    rw [Option.mem_def, List.getLast?_eq_getElem?, front] at last
    obtain ⟨within, rfl⟩ := List.getElem?_eq_some_iff.mp last
    rw [front] at within
    rw [List.getElem_take]
    have next : text.drop (place - 1) = text[place - 1] :: text.drop place := by
      rw [List.drop_eq_getElem_cons (by omega), show place - 1 + 1 = place by omega]
    cases isBlank : Text.isBlank text[place - 1] with
    | false => rfl
    | true =>
      have past : (Pattern.closing literal).reachesPast text[place - 1] = true := isBlank
      have here := Pattern.matchesAt_of_reachesPast past stands
      rw [← next, passed (place - 1) within] at here
      exact here.symm
  · -- The literal does not stand earlier, where the search has passed.
    intro n early stands
    rw [front] at early
    obtain ⟨later, same⟩ := stands
    have here := Pattern.matchesAt_padded literal later Text.blank_nil
    rw [List.nil_append, same, passed n early] at here
    exact Bool.noConfusion here
  · -- The blanks are all that the pattern takes, which is as many as there are.
    intro pad' after' blank' same
    obtain ⟨length, found', long⟩ := Pattern.le_paddedLength? literal after' blank'
    rw [same, ← split] at found'
    obtain rfl := Option.some.inj (found.symm.trans found')
    omega

/-- In front of a literal that begins with something else there is no choice of blanks. -/
theorem of_solid {c : Char} {rest : Text} (solid : Text.isBlank c = false) (blank : pad.Blank) :
    Cut (c :: rest) (pad ++ (c :: rest ++ after)) [] pad after where
  whole := rfl
  blank := blank
  tight := by simp
  first := by simp
  longest := by
    -- The first character that is no blank is that of the literal.
    intro pad' after' blank' same
    have unique := Text.blanks_unique blank' blank (by simpa using solid) (by simpa using solid) same
    exact Nat.le_of_eq (congrArg List.length unique.1)

end Cut

end Mustache
