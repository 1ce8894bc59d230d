import Mathlib.Data.List.TakeWhile
import Mustache.Delimiters
import Mustache.Proofs.Cut

/-! The words of a text, and the delimiters that the first two of them make. -/

namespace Mustache

namespace Text

/-- The words of a text: its longest parts without blanks. -/
def words (t : Text) : List Text := (t.splitOnP isBlank).filter (· ≠ [])

/-- The empty text has no words. -/
@[simp] theorem words_nil : words [] = [] := rfl

/-- A blank divides the words before it from those behind it. -/
theorem words_append_cons (s t : Text) {c : Char} (blank : isBlank c = true) :
    words (s ++ c :: t) = words s ++ words t := by
  -- The text is split at every blank, so at this one.
  rw [words, List.splitOnP_append_cons s t blank, List.filter_append]
  rfl

/-- A text without blanks is one word, unless it is empty. -/
theorem words_solid {t : Text} (solid : ∀ c ∈ t, isBlank c = false) :
    words t = if t = [] then [] else [t] := by
  -- The text is not split at all.
  rw [words, List.splitOnP_eq_singleton solid]
  by_cases empty : t = [] <;> simp [empty]

/-- Blanks in front of a text add no words. -/
theorem words_blank_append {pad : Text} (blank : pad.Blank) (t : Text) :
    words (pad ++ t) = words t := by
  -- Each blank has nothing before it.
  induction pad with
  | nil => rfl
  | cons c pad ih =>
    obtain ⟨here, blank⟩ := (blank_cons c pad).mp blank
    rw [List.cons_append, ← List.nil_append (c :: (pad ++ t)), words_append_cons [] _ here,
      words_nil, List.nil_append, ih blank]

/-- Blanks behind a text add no words. -/
theorem words_append_blank (t : Text) {pad : Text} (blank : pad.Blank) :
    words (t ++ pad) = words t := by
  -- The first blank divides the text from blanks, which have no words.
  cases pad with
  | nil => rw [List.append_nil]
  | cons c pad =>
    obtain ⟨here, blank⟩ := (blank_cons c pad).mp blank
    have none : words pad = [] := by simpa using words_blank_append blank []
    rw [words_append_cons t pad here, none, List.append_nil]

/-- A text without blanks is a word of its own in front of the end or a blank. -/
theorem words_append {word rest : Text} (solid : ∀ c ∈ word, isBlank c = false)
    (nonempty : word ≠ []) (stop : ∀ c ∈ rest.head?, isBlank c = true) :
    words (word ++ rest) = word :: words rest := by
  -- The word by itself is the only one of its text.
  have alone : words word = [word] := by rw [words_solid solid, if_neg nonempty]
  cases rest with
  | nil => rw [List.append_nil, alone, words_nil]
  | cons c more =>
    -- The blank has a word in front of it, and nothing else if it comes first.
    have blank : isBlank c = true := stop c rfl
    have behind : words (c :: more) = words more := by
      simpa using words_append_cons [] more blank
    rw [words_append_cons word more blank, alone, behind, List.singleton_append]

/-- A text that does not begin with a blank begins with its first word. -/
theorem words_eq_cons {t : Text} (first : ∀ c ∈ t.head?, isBlank c = false) (nonempty : t ≠ []) :
    words t = t.takeWhile (!isBlank ·) :: words (t.dropWhile (!isBlank ·)) := by
  -- The text is the word in front and what begins with the blank that ends it.
  have solid : ∀ c ∈ t.takeWhile (!isBlank ·), isBlank c = false := by
    intro c member
    simpa using List.all_eq_true.mp List.all_takeWhile c member
  have stop : ∀ c ∈ (t.dropWhile (!isBlank ·)).head?, isBlank c = true := by
    intro c member
    have stays := List.head?_dropWhile_not (!isBlank ·) t
    rw [member] at stays
    simpa using stays
  have taken : t.takeWhile (!isBlank ·) ≠ [] := by
    obtain ⟨c, rest, rfl⟩ := List.exists_cons_of_ne_nil nonempty
    simp [first c rfl]
  -- The first word goes as far as there are no blanks.
  calc words t = words (t.takeWhile (!isBlank ·) ++ t.dropWhile (!isBlank ·)) := by
        rw [List.takeWhile_append_dropWhile]
    _ = t.takeWhile (!isBlank ·) :: words (t.dropWhile (!isBlank ·)) :=
        words_append solid taken stop

/-- Blanks in front of a text hide none of its words. -/
theorem words_dropWhile_blank (t : Text) : words (t.dropWhile isBlank) = words t := by
  -- What is dropped are blanks.
  rw [← words_blank_append (blank_takeWhile t) (t.dropWhile isBlank),
    List.takeWhile_append_dropWhile]

/-- No word is empty. -/
theorem ne_nil_of_mem_words {t word : Text} (member : word ∈ words t) : word ≠ [] := by
  -- Empty parts are left out.
  simpa using (List.mem_filter.mp member).2

/-- Removing the blanks at the ends of a text removes no words. -/
theorem words_strip (t : Text) : words (strip t) = words t := by
  have back := List.takeWhile_append_dropWhile (p := isBlank) (l := (t.dropWhile isBlank).reverse)
  -- What is removed are the blanks in front and then those behind.
  have split : t.dropWhile isBlank
      = strip t ++ ((t.dropWhile isBlank).reverse.takeWhile isBlank).reverse := by
    rw [strip, ← List.reverse_append, back, List.reverse_reverse]
  have behind : Blank ((t.dropWhile isBlank).reverse.takeWhile isBlank).reverse := by
    intro c member
    exact blank_takeWhile _ c (List.mem_reverse.mp member)
  -- Neither the blanks behind nor those in front add a word.
  calc words (strip t) = words (t.dropWhile isBlank) := by
        rw [split, words_append_blank _ behind]
    _ = words t := words_dropWhile_blank t

/-- A text without the blanks at its ends does not begin with a blank. -/
theorem head?_strip (t : Text) : ∀ c ∈ (strip t).head?, isBlank c = false := by
  intro c first
  obtain ⟨rest, whole⟩ := List.head?_eq_some_iff.mp first
  -- What is left is a front of the text behind the blanks that it begins with.
  have front : strip t <+: t.dropWhile isBlank := by
    rw [← List.reverse_suffix, strip, List.reverse_reverse]
    exact List.dropWhile_suffix _
  obtain ⟨more, same⟩ := front
  -- And behind those blanks comes none.
  refine head?_dropWhile_blank t c ?_
  rw [← same, whole]
  rfl

/-- A text without the blanks at its ends does not end with a blank. -/
theorem getLast?_strip (t : Text) : ∀ c ∈ (strip t).getLast?, isBlank c = false := by
  -- The blanks at the end were the first ones of the text turned round.
  intro c last
  rw [strip, List.getLast?_reverse] at last
  exact head?_dropWhile_blank _ c last

/-- The first words of a text are two of its words if there are two, and else the only one. -/
theorem firstWords_eq (t : Text) :
    firstWords t = if words t = [] then [[]] else (words t).take 2 := by
  -- Both sides may be asked of the text without the blanks around it.
  have first := head?_strip t
  have last := getLast?_strip t
  rw [← words_strip t, firstWords]
  generalize strip t = body at *
  by_cases empty : body = []
  · subst empty
    rfl
  rw [words_eq_cons first empty, if_neg (List.cons_ne_nil _ _)]
  have stop := List.head?_dropWhile_not (!isBlank ·) body
  cases rest : body.dropWhile (!isBlank ·) with
  | nil => rfl
  | cons d more =>
    -- The last character is no blank, so that another word begins behind the blanks.
    have second : (d :: more).dropWhile isBlank ≠ [] := by
      intro none
      have blank : Blank (d :: more) := List.dropWhile_eq_nil_iff.mp none
      have ends : body.getLast? = some ((d :: more).getLast (List.cons_ne_nil d more)) := by
        rw [← List.takeWhile_append_dropWhile (p := (!isBlank ·)) (l := body), rest,
          List.getLast?_append, List.getLast?_eq_some_getLast (List.cons_ne_nil d more),
          Option.some_or]
      have solid := last _ ends
      rw [blank _ (List.getLast_mem _)] at solid
      exact Bool.noConfusion solid
    rw [← words_dropWhile_blank (d :: more), words_eq_cons (head?_dropWhile_blank _) second]
    rfl

end Text

namespace Delimiters

/-- The pair that two words make. -/
theorem ofWords?_eq_some_iff {words : List Text} {pair : Delimiters} :
    ofWords? words = some pair ↔ words = [pair.opening, pair.closing] := by
  constructor
  · -- A pair is only made of two words that are not empty.
    intro made
    unfold ofWords? at made
    split at made
    · simp only [Option.dite_none_right_eq_some, Option.some.injEq] at made
      obtain ⟨-, rfl⟩ := made
      rfl
    · simp at made
  · -- The words of a pair are not empty.
    rintro rfl
    simp [ofWords?, pair.opening_ne_nil, pair.closing_ne_nil]

/-- The body of a tag gives the delimiters that are its first two words. -/
theorem ofBody?_eq_some_iff {body : Text} {pair : Delimiters} :
    ofBody? body = some pair ↔ ∃ more, Text.words body = pair.opening :: pair.closing :: more := by
  rw [ofBody?, ofWords?_eq_some_iff, Text.firstWords_eq]
  -- Two words are the first two of all.
  match Text.words body with
  | [] => simp
  | [word] => simp
  | first :: second :: more => simp

/-- The body of a tag gives no delimiters when it has less than two words. -/
theorem ofBody?_eq_none_iff {body : Text} :
    ofBody? body = none ↔ (Text.words body).length < 2 := by
  constructor
  · intro absent
    refine Nat.lt_of_not_le fun two => ?_
    -- Two words that are not empty would have made a pair.
    obtain ⟨first, second, more, split⟩ : ∃ first second more,
        Text.words body = first :: second :: more := by
      match Text.words body, two with
      | first :: second :: more, _ => exact ⟨first, second, more, rfl⟩
    have member₁ : first ∈ Text.words body := by simp [split]
    have member₂ : second ∈ Text.words body := by simp [split]
    let pair : Delimiters :=
      ⟨first, second, Text.ne_nil_of_mem_words member₁, Text.ne_nil_of_mem_words member₂⟩
    have made : ofBody? body = some pair := ofBody?_eq_some_iff.mpr ⟨more, split⟩
    rw [absent] at made
    cases made
  · -- A pair would be two words of the body.
    intro few
    cases made : ofBody? body with
    | none => rfl
    | some pair =>
      obtain ⟨more, split⟩ := ofBody?_eq_some_iff.mp made
      simp only [split, List.length_cons] at few
      omega

end Delimiters

end Mustache
