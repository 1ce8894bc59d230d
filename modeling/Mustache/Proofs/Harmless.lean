import Mustache.Scene

/-!
Texts that are harmless in HTML, wherever they stand between quotes or in an element.

What escaping gives is harmless, and so is every number as it is written.
-/

namespace Mustache

namespace Html

/-- The characters that can end an element, an attribute or a script. -/
def reserved : List Char := ['<', '>', '"', '\'', '/', '\x60', '=']

/-- The characters that have an entity are the reserved ones and the mark of an entity. -/
theorem map_entities : entities.map (·.1) = '&' :: reserved := rfl

/-- A text without reserved characters, in which every mark of an entity begins one. -/
structure Harmless (t : Text) : Prop where
  /-- There are no reserved characters. -/
  unreserved : ∀ c ∈ t, c ∉ reserved
  /-- Where there is the mark of an entity, there is the entity. -/
  entity : ∀ before behind, t = before ++ '&' :: behind →
    ∃ entity ∈ entities.map (·.2), entity <+: '&' :: behind

namespace Harmless

/-- The empty text is harmless. -/
theorem nil : Harmless [] := by
  -- No mark stands in it.
  refine ⟨nofun, fun before behind same => ?_⟩
  simp at same

/-- A text without marks and reserved characters may stand before a harmless one. -/
theorem plain_append {plain t : Text} (noMark : '&' ∉ plain)
    (unreserved : ∀ c ∈ plain, c ∉ reserved)
    (harmless : Harmless t) : Harmless (plain ++ t) := by
  refine ⟨fun c member => ?_, fun before behind same => ?_⟩
  · rcases List.mem_append.mp member with first | later
    · exact unreserved c first
    · exact harmless.unreserved c later
  · -- A mark stands in one of the two texts, wherever the first one ends.
    rcases List.append_eq_append_iff.mp same with ⟨between, rfl, there⟩ | ⟨between, rfl, there⟩
    · exact harmless.entity between behind there
    · -- The mark does not stand in the plain text.
      cases between with
      | nil => exact harmless.entity [] behind there.symm
      | cons c between =>
        obtain ⟨rfl, -⟩ := List.cons.inj there
        exact absurd (by simp) noMark

/-- An entity may stand before a harmless text. -/
theorem entity_append {letters t : Text} (known : '&' :: letters ∈ entities.map (·.2))
    (noMark : '&' ∉ letters) (unreserved : ∀ c ∈ letters, c ∉ reserved) (harmless : Harmless t) :
    Harmless ('&' :: letters ++ t) := by
  -- Behind its mark an entity is a plain text.
  have rest := plain_append noMark unreserved harmless
  refine ⟨fun c member => ?_, fun before behind same => ?_⟩
  · rcases List.mem_cons.mp member with rfl | later
    · decide
    · exact rest.unreserved c later
  · -- The mark is that of the entity, or it stands behind it.
    cases before with
    | nil =>
      obtain ⟨-, rfl⟩ := List.cons.inj same
      exact ⟨_, known, List.prefix_append _ _⟩
    | cons c before => exact rest.entity before behind (List.cons.inj same).2

end Harmless

/-- Every entity consists of its mark and letters that are neither marks nor reserved. -/
theorem letters_of_entity : ∀ entry ∈ entities, ∃ letters, entry.2 = '&' :: letters
    ∧ '&' ∉ letters ∧ ∀ c ∈ letters, c ∉ reserved := by
  -- There are a few entities, which are looked through.
  have all : ∀ entry ∈ entities, entry.2.head? = some '&' ∧ '&' ∉ entry.2.tail
      ∧ entry.2.tail.all (· ∉ reserved) = true := by decide +kernel
  intro entry member
  obtain ⟨first, noMark, unreserved⟩ := all entry member
  obtain ⟨letters, same⟩ := List.head?_eq_some_iff.mp first
  rw [same, List.tail_cons] at noMark unreserved
  exact ⟨letters, same, noMark, by simpa using unreserved⟩

/-- An escaped text is harmless. -/
theorem harmless_escape (t : Text) : Harmless (escape t) := by
  induction t with
  | nil => exact .nil
  | cons c t ih =>
    rw [escape, List.flatMap_cons, escapeChar]
    cases found : entities.lookup c with
    | none =>
      -- A character without an entity is neither the mark nor reserved.
      have others : c ∉ '&' :: reserved := by
        rw [← map_entities]
        intro member
        obtain ⟨entry, there, rfl⟩ := List.mem_map.mp member
        exact absurd (List.lookup_eq_none_iff.mp found entry there) (by simp)
      rw [List.mem_cons, not_or] at others
      refine Harmless.plain_append ?_ ?_ ih
      · simpa [eq_comm] using others.1
      · simpa using others.2
    -- Any other character is replaced by its entity.
    | some entity =>
      obtain ⟨before, behind, entries, -⟩ := List.lookup_eq_some_iff.mp found
      have member : (c, entity) ∈ entities := by simp [entries]
      obtain ⟨letters, same, noMark, unreserved⟩ := letters_of_entity _ member
      cases same
      exact Harmless.entity_append (List.mem_map.mpr ⟨_, member, rfl⟩) noMark unreserved ih

end Html

/-- A text in which there are only letters, digits, signs and points. -/
def Text.Numeric (t : Text) : Prop := ∀ c ∈ t, c.isAlphanum = true ∨ c ∈ ['+', '-', '.']

instance : DecidablePred Text.Numeric := fun t => List.decidableBAll _ t

namespace Text.Numeric

/-- Two texts after each other are such a text. -/
theorem append {first second : Text} (numeric : Numeric first) (numeric' : Numeric second) :
    Numeric (first ++ second) := by
  intro c member
  -- A character is one of the first text or of the second.
  rcases List.mem_append.mp member with there | there
  · exact numeric c there
  · exact numeric' c there

/-- A sign, a point, a letter or a digit may stand before such a text. -/
theorem cons {c : Char} {t : Text} (first : c.isAlphanum = true ∨ c ∈ ['+', '-', '.'])
    (numeric : Numeric t) : Numeric (c :: t) := by
  intro other member
  -- A character is the first one, or one of the text behind it.
  rcases List.mem_cons.mp member with rfl | there
  · exact first
  · exact numeric other there

/-- A part of such a text is one. -/
theorem of_sublist {part t : Text} (sublist : part.Sublist t) (numeric : Numeric t) :
    Numeric part :=
  -- Each character of the part is one of the text.
  fun c member => numeric c (sublist.subset member)

/-- Zeros are such a text. -/
theorem zeros (count : Nat) : Numeric (List.replicate count '0') := by
  -- Each character is a zero, and so it is a digit.
  intro c member
  obtain ⟨-, rfl⟩ := List.mem_replicate.mp member
  exact .inl rfl

/-- The digits of a number are such a text. -/
theorem toDigits (n : Nat) : Numeric (Nat.toDigits 10 n) := by
  intro c member
  -- A decimal digit is a digit, and so a character that nothing is wrong with.
  have digit := Nat.isDigit_of_mem_toDigits (by decide) (by decide) member
  exact .inl (by simp [Char.isAlphanum, digit])

/-- There are neither marks nor reserved characters in such a text. -/
theorem plain {t : Text} (numeric : Numeric t) : ∀ c ∈ t, c ∉ '&' :: Html.reserved := by
  -- No mark and no reserved character is a letter, a digit, a sign or a point.
  have others : ('&' :: Html.reserved).all (fun c => ¬ (c.isAlphanum = true ∨ c ∈ ['+', '-', '.']))
      = true := by decide
  exact fun c member special =>
    of_decide_eq_true (List.all_eq_true.mp others c special) (numeric c member)

/-- Such a text is harmless. -/
theorem harmless {t : Text} (numeric : Numeric t) : Html.Harmless t := by
  -- A text without marks needs no entity behind any of them.
  have plain := numeric.plain
  rw [← List.append_nil t]
  refine .plain_append (fun member => plain _ member List.mem_cons_self) ?_ .nil
  exact fun c member special => plain c member (List.mem_cons_of_mem _ special)

end Text.Numeric

/-- An integer is written with digits and a sign. -/
theorem Text.numeric_ofInt (n : Int) : Text.Numeric (ofInt n) := by
  -- A negative number has a sign in front of its digits.
  cases n with
  | ofNat n => exact .toDigits n
  | negSucc n => exact .cons (.inr (by decide)) (.toDigits _)

namespace Binary64

/-- An exponent is written with its mark, a sign and digits. -/
theorem numeric_exponentMark (n : Int) : Text.Numeric (exponentMark n) := by
  refine .cons (.inl rfl) (.cons ?_ ?_)
  · split <;> decide
  · -- The digits are padded with zeros.
    exact (Text.Numeric.zeros _).append (.toDigits _)

/-- A decimal is written with its digits, zeros, a point and an exponent. -/
theorem Layout.numeric_decimal (layout : Layout) {digits : Text} (numeric : Text.Numeric digits)
    (leading : Int) : Text.Numeric (layout.decimal digits leading) := by
  -- Whatever is cut from digits consists of digits.
  have front (count : Nat) : Text.Numeric (digits.take count) :=
    .of_sublist (List.take_sublist count digits) numeric
  have back (count : Nat) : Text.Numeric (digits.drop count) :=
    .of_sublist (List.drop_sublist count digits) numeric
  have point {t : Text} (behind : Text.Numeric t) : Text.Numeric ('.' :: t) :=
    .cons (.inr (by decide)) behind
  unfold Layout.decimal
  -- The number is written with an exponent, as a fraction of one, or in place.
  split
  · refine ((front 1).append ?_).append (numeric_exponentMark leading)
    split
    · exact nofun
    · exact point (back 1)
  · split
    · -- The point stands behind the zeros, or among the digits, or there is none.
      exact .cons (.inl rfl) (point ((Text.Numeric.zeros _).append numeric))
    · have whole := (front (leading + 1).toNat).append
        (Text.Numeric.zeros ((leading + 1).toNat - (digits.take (leading + 1).toNat).length))
      split
      · split
        · exact whole.append (point (Text.Numeric.zeros 1))
        · exact whole
      · exact whole.append (point (back _))

/-- A floating-point number is written like a decimal, or by the name of what it is. -/
theorem numeric_toText (x : Binary64) : Text.Numeric x.toText := by
  -- A magnitude is zero, which has its own layout, or has digits around a point.
  have magnitude (mantissa : Nat) (exponent : Int) :
      Text.Numeric (Layout.plain.magnitude mantissa exponent) := by
    unfold Layout.magnitude
    split
    · exact Layout.numeric_decimal _ (Text.Numeric.zeros 1) 0
    · exact Layout.numeric_decimal _ (.toDigits _) _
  cases x with
  | nan => decide
  | infinite negative => cases negative <;> decide
  | finite negative mantissa exponent =>
    -- A sign may stand in front of the magnitude.
    cases negative with
    | false => exact magnitude mantissa exponent
    | true => exact .cons (.inr (by decide)) (magnitude mantissa exponent)

end Binary64

/-- A value is shown as it is displayed, if it is shown at all. -/
theorem Value.eq_display_of_shown {value : Value} {t : Text} (shown : value.shown = .ok t) :
    t = value.display := by
  -- It is not if a numeral in it is too long.
  unfold Value.shown at shown
  split at shown <;> cases shown
  rfl

/-- What the escape of this library gives for any value is harmless, numbers included. -/
theorem Scene.harmless_escapedText {value : Value} {t : Text} (escaped : escapedText value = .ok t) :
    Html.Harmless t := by
  unfold escapedText at escaped
  split at escaped
  · -- A number is written in digits, and so is one with a point.
    rw [Value.eq_display_of_shown escaped]
    exact (Text.numeric_ofInt _).harmless
  · rw [Value.eq_display_of_shown escaped]
    exact (Binary64.numeric_toText _).harmless
  · -- Every other value is shown as a text, which is escaped.
    generalize Value.shown _ = shown at escaped
    cases shown <;> cases escaped
    exact Html.harmless_escape _

end Mustache
