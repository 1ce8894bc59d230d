import Mustache.Indentation
import Mustache.Proofs.Solid

/-!
Texts whose lines get a margin.

A margin of blanks stands only behind line breaks, where no delimiter without blanks can be, so that
the tags of such a text are those of the text without it.
-/

namespace Mustache

namespace Text

/-- The margin between two parts of a text: there is one before a line that is not empty. -/
def gap (margin front behind : Text) : Text :=
  if front.getLast? = some '\n' ∧ behind.head?.any (· ≠ '\n') = true then margin else []

/-- A text with a margin before each line that is not empty, but for the first one. -/
def spread (margin : Text) : Text → Text
  | [] => []
  | c :: rest => c :: (gap margin [c] rest ++ spread margin rest)

section Gaps

variable {margin front behind : Text}

/-- There is a margin only behind a line break. -/
theorem gap_of_solid (solid : ∀ c ∈ front.getLast?, isBlank c = false) :
    gap margin front behind = [] := by
  refine if_neg fun ⟨last, _⟩ => ?_
  -- A line break is a blank.
  have visible := solid _ last
  simp [isBlank] at visible

/-- There is no margin in front of the end. -/
theorem gap_nil : gap margin front [] = [] := by simp [gap]

/-- There is no margin behind the start. -/
theorem nil_gap : gap margin [] behind = [] := by simp [gap]

/-- A margin depends on nothing but what comes first behind it. -/
theorem gap_congr {behind' : Text} (first : behind.head? = behind'.head?) :
    gap margin front behind = gap margin front behind' := by rw [gap, gap, first]

/-- A margin depends on nothing but what comes last in front of it. -/
theorem gap_cons (c d : Char) :
    gap margin (c :: d :: front) behind = gap margin (d :: front) behind := by
  -- What comes last is the same with one character less in front.
  rw [gap, gap, List.getLast?_cons_cons]

/-- A margin of blanks is blank wherever it is left out. -/
theorem blank_gap (blank : margin.Blank) : (gap margin front behind).Blank := by
  -- The margin is left out as a whole or not at all.
  unfold gap
  split
  · exact blank
  · exact blank_nil

end Gaps

variable {margin : Text}

/-- A text with margins is put together from its parts with margins, and the margin between them. -/
theorem spread_append (front behind : Text) :
    spread margin (front ++ behind)
      = spread margin front ++ (gap margin front behind ++ spread margin behind) := by
  -- The induction is on the front; at its end the margin depends on what comes next.
  induction front with
  | nil => rw [List.nil_append, spread, nil_gap, List.nil_append, List.nil_append]
  | cons c front ih =>
    rw [List.cons_append, spread, spread, ih]
    -- What comes next is another character of the front, or the part behind.
    cases front with
    | nil => simp [gap_nil, nil_gap, spread]
    | cons d front =>
      have same : gap margin [c] (d :: front ++ behind) = gap margin [c] (d :: front) :=
        gap_congr rfl
      rw [same, gap_cons]
      simp only [List.cons_append, List.append_assoc]

/-- With an empty margin a text stays as it is. -/
theorem spread_nil (t : Text) : spread [] t = t := by
  -- Whatever line break stands there, nothing comes behind it.
  induction t with
  | nil => rfl
  | cons c t ih =>
    have none : gap [] [c] t = [] := ite_self _
    rw [spread, none, ih, List.nil_append]

/-- A text without line breaks gets no margins. -/
theorem spread_eq_self {t : Text} (single : '\n' ∉ t) : spread margin t = t := by
  -- No character is a line break with something behind it.
  induction t with
  | nil => rfl
  | cons c t ih =>
    rw [List.mem_cons, not_or] at single
    have none : gap margin [c] t = [] := by
      refine if_neg fun ⟨last, _⟩ => single.1 ?_
      simpa using last.symm
    rw [spread, none, ih single.2, List.nil_append]

/-- A text without blanks gets no margins. -/
theorem spread_solid {t : Text} (solid : ∀ c ∈ t, isBlank c = false) : spread margin t = t := by
  refine spread_eq_self fun member => ?_
  -- A line break is a blank.
  have visible := solid _ member
  simp [isBlank] at visible

/-- A text with margins begins as it does without them. -/
theorem head?_spread (t : Text) : (spread margin t).head? = t.head? := by
  -- Margins only come behind a character.
  cases t <;> rfl

/-- A text with margins ends as it does without them. -/
theorem getLast?_spread (t : Text) : (spread margin t).getLast? = t.getLast? := by
  -- Behind the last character there is no margin, even if it is a line break.
  rcases List.eq_nil_or_concat t with rfl | ⟨front, c, rfl⟩
  · rfl
  · rw [List.concat_eq_append, spread_append, spread, gap_nil]
    simp [spread]

/-- Blanks with margins of blanks are blanks. -/
theorem blank_spread (blank : margin.Blank) {t : Text} (blank' : t.Blank) :
    (spread margin t).Blank := by
  -- Each character may bring in a margin behind it, which is blank.
  induction t with
  | nil => exact blank_nil
  | cons c t ih =>
    obtain ⟨first, others⟩ := (blank_cons c t).mp blank'
    rw [spread, blank_cons, blank_append]
    exact ⟨first, blank_gap blank, ih others⟩

/-- Margins divide no words. -/
theorem words_spread (blank : margin.Blank) (t : Text) : words (spread margin t) = words t := by
  -- The induction carries what stands in front of the text.
  suffices general : ∀ front, words (front ++ spread margin t) = words (front ++ t) from general []
  induction t with
  | nil => exact fun _ => rfl
  | cons c t ih =>
    intro front
    rw [spread]
    cases visible : isBlank c with
    | true =>
      -- A blank ends a word, and the margin behind it only adds more blanks.
      have behind : words (spread margin t) = words t := ih []
      rw [words_append_cons _ _ visible, words_append_cons _ _ visible,
        words_blank_append (blank_gap blank), behind]
    | false =>
      -- Behind any other character there is no margin.
      have none : gap margin [c] t = [] := gap_of_solid (by simpa using visible)
      rw [none, List.nil_append, ← List.singleton_append, ← List.append_assoc, ih,
        List.append_assoc, List.singleton_append]

/-- A text without blanks that a text begins with when it has margins is there without them. -/
theorem prefix_of_spread {literal t : Text} (solid : ∀ c ∈ literal, isBlank c = false)
    (stands : literal <+: spread margin t) : literal <+: t := by
  -- No character of the literal is a line break, so that no margin comes in between.
  induction literal generalizing t with
  | nil => exact List.nil_prefix
  | cons c literal ih =>
    cases t with
    | nil => exact stands
    | cons d t =>
      -- Both begin with the same character, which brings in no margin.
      obtain ⟨rfl, behind⟩ := List.cons_prefix_cons.mp stands
      have none : gap margin [c] t = [] := gap_of_solid (by simpa using solid c List.mem_cons_self)
      rw [none, List.nil_append] at behind
      exact List.cons_prefix_cons.mpr
        ⟨rfl, ih (fun d member => solid d (List.mem_cons_of_mem c member)) behind⟩

/-- Blanks that a text begins with are passed over before a character that is none. -/
theorem passed_blank {pad rest front behind : Text} (blank : pad.Blank) {c : Char}
    (visible : isBlank c = false) (whole : pad ++ rest = front ++ c :: behind) :
    ∃ passed, front = pad ++ passed ∧ rest = passed ++ c :: behind := by
  -- The blanks end in front of the character, or would go on past it.
  rcases List.append_eq_append_iff.mp whole with ⟨passed, same, there⟩ | ⟨inside, within, there⟩
  · exact ⟨passed, same, there⟩
  · cases inside with
    | nil => exact ⟨[], by simpa using within.symm, there.symm⟩
    | cons d inside =>
      -- The character would be one of the blanks.
      obtain ⟨rfl, -⟩ := List.cons.inj there
      have hidden := blank c (by simp [within])
      rw [visible] at hidden
      cases hidden

/-- Where a text without blanks stands in a text with margins, it stands without them. -/
theorem occurs_of_spread (blank : margin.Blank) {literal : Text}
    (solid : ∀ c ∈ literal, isBlank c = false) (nonempty : literal ≠ []) {front behind t : Text}
    (whole : spread margin t = front ++ (literal ++ behind)) :
    ∃ front' behind', t = front' ++ (literal ++ behind')
      ∧ front = spread margin front' ++ gap margin front' literal := by
  obtain ⟨first, others, rfl⟩ := List.exists_cons_of_ne_nil nonempty
  have visible := solid first List.mem_cons_self
  -- The induction is on the text; a margin is passed over together with the line break before it.
  induction t generalizing front with
  | nil => simp [spread] at whole
  | cons c t ih =>
    rw [spread] at whole
    cases front with
    | nil =>
      -- The word stands right here, and no margin is inside it.
      have stands : first :: others <+: spread margin (c :: t) :=
        ⟨behind, by rw [spread, whole]; rfl⟩
      obtain ⟨behind', same⟩ := prefix_of_spread solid stands
      exact ⟨[], behind', same.symm, by rw [nil_gap]; rfl⟩
    | cons d front =>
      -- It stands further on, behind a character and perhaps the margin that follows it.
      obtain ⟨rfl, later⟩ := List.cons.inj whole
      obtain ⟨passed, rfl, there⟩ := passed_blank (blank_gap blank) visible later
      obtain ⟨front', behind', rfl, rfl⟩ := ih there
      refine ⟨c :: front', behind', rfl, ?_⟩
      rw [spread]
      cases front' with
      | nil =>
        have same : gap margin [c] ([] ++ (first :: others ++ behind'))
            = gap margin [c] (first :: others) := gap_congr rfl
        rw [same, gap_nil, nil_gap]
        simp only [spread, List.append_nil, List.nil_append, List.cons_append]
      | cons d front' =>
        have same : gap margin [c] (d :: front' ++ (first :: others ++ behind'))
            = gap margin [c] (d :: front') := gap_congr rfl
        rw [same, gap_cons]
        simp only [List.cons_append, List.append_assoc]

end Text

end Mustache
