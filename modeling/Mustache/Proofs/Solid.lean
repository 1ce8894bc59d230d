import Mustache.Proofs.Forest.Reading
import Mustache.Proofs.Part

/-!
Delimiters without blanks: neither of them reaches across a blank.

A text that ends with a blank is read by itself as it is read in front of any other text.
-/

namespace Mustache

/-- Delimiters in which there are no blanks. -/
structure Delimiters.Solid (pair : Delimiters) : Prop where
  /-- The text a tag begins with has none. -/
  opening : ∀ c ∈ pair.opening, Text.isBlank c = false
  /-- The text a tag ends with has none. -/
  closing : ∀ c ∈ pair.closing, Text.isBlank c = false

instance (pair : Delimiters) : Decidable pair.Solid :=
  -- The characters of the delimiters are tried, not all that there are.
  have : Decidable (∀ c ∈ pair.opening, Text.isBlank c = false) := List.decidableBAll _ _
  have : Decidable (∀ c ∈ pair.closing, Text.isBlank c = false) := List.decidableBAll _ _
  decidable_of_iff ((∀ c ∈ pair.opening, Text.isBlank c = false)
      ∧ ∀ c ∈ pair.closing, Text.isBlank c = false)
    ⟨fun ⟨opening, closing⟩ => ⟨opening, closing⟩, fun solid => ⟨solid.opening, solid.closing⟩⟩

/-- The characters of a word are characters of the text, and none of them is a blank. -/
theorem Text.of_mem_words {t word : Text} (member : word ∈ words t) :
    ∀ c ∈ word, c ∈ t ∧ isBlank c = false := by
  obtain ⟨part, -⟩ := List.mem_filter.mp member
  -- The induction is on the text, each character of which ends a part or begins one.
  clear member
  induction t generalizing word with
  | nil =>
    obtain rfl := List.mem_singleton.mp part
    nofun
  | cons c t ih =>
    -- What is known of a part of the shorter text holds in the longer one.
    have later {word : Text} (part : word ∈ t.splitOnP isBlank) :
        ∀ d ∈ word, d ∈ c :: t ∧ isBlank d = false := by
      intro d inside
      obtain ⟨among, solid⟩ := ih part d inside
      exact ⟨.tail c among, solid⟩
    rw [List.splitOnP_cons_eq_if_modifyHead] at part
    cases blank : isBlank c with
    | true =>
      rw [blank, if_pos rfl, List.mem_cons] at part
      rcases part with rfl | behind
      · nofun
      · exact later behind
    | false =>
      rw [blank, if_neg Bool.false_ne_true] at part
      obtain ⟨first, others, parts⟩ := List.exists_cons_of_ne_nil (List.splitOnP_ne_nil isBlank t)
      rw [parts, List.modifyHead_cons, List.mem_cons] at part
      -- A character that is no blank begins the first part, and the others are as they were.
      rcases part with rfl | behind
      · intro d inside
        rcases List.mem_cons.mp inside with rfl | inside
        · exact ⟨.head t, blank⟩
        · exact later (parts ▸ List.mem_cons_self) d inside
      · exact later (parts ▸ List.mem_cons_of_mem _ behind)

/-- There is no blank in a word. -/
theorem Text.solid_of_mem_words {t word : Text} (member : word ∈ words t) :
    ∀ c ∈ word, isBlank c = false := fun c inside => (of_mem_words member c inside).2

/-- Behind delimiters without blanks come none with blanks. -/
theorem Delimiters.Follows.solid {pair next : Delimiters} {sigil : Sigil} {body : Text}
    (follows : pair.Follows sigil body next) (solid : pair.Solid) : next.Solid := by
  cases follows with
  -- The delimiters in use are kept by any other tag.
  | kept _ => exact solid
  | switched words =>
    -- The new delimiters are words.
    refine ⟨Text.solid_of_mem_words (t := body) ?_, Text.solid_of_mem_words (t := body) ?_⟩
    · rw [words]
      exact List.mem_cons_self
    · rw [words]
      exact List.mem_cons_of_mem _ List.mem_cons_self

/-- A cut text may go on behind the literal, if this begins with something else than a blank. -/
theorem Cut.extend {literal text before pad after : Text} (cut : Cut literal text before pad after)
    (solid : ∀ c ∈ literal.head?, Text.isBlank c = false) (nonempty : literal ≠ []) (extra : Text) :
    Cut literal (text ++ extra) before pad (after ++ extra) where
  whole := by simp only [cut.whole, List.append_assoc]
  blank := cut.blank
  tight := cut.tight
  first := by
    -- A place in front of the cut leaves room for the literal before the text goes on.
    intro n early stands
    refine cut.first n early (List.prefix_of_prefix_length_le stands ?_ ?_)
    · exact (List.prefix_append _ extra).drop n
    · rw [List.length_drop, cut.whole]
      simp only [List.length_append]
      omega
  -- Where the literal begins with a solid character, no more blanks can be passed over.
  longest := by
    obtain ⟨c, rest, rfl⟩ := List.exists_cons_of_ne_nil nonempty
    exact (Cut.of_solid (solid c rfl) cut.blank).longest

namespace Delimiters.Solid

variable {pair : Delimiters}

/-- The closing delimiter does not begin with a blank. -/
theorem head?_closing (solid : pair.Solid) : ∀ c ∈ pair.closing.head?, Text.isBlank c = false :=
  -- The first character is one of the delimiter.
  fun c first => solid.closing c (List.mem_of_head? first)

/-- The content of a tag may go on behind the closing delimiter. -/
theorem closes_extend (solid : pair.Solid) {content body rest : Text} {sigil : Sigil}
    (closes : Closes pair content sigil body rest) (extra : Text) :
    Closes pair (content ++ extra) sigil body (rest ++ extra) := by
  -- The cases are the kinds of tags, each with the cuts that its content is made of.
  cases closes with
  | ordinary noBrace noSwitch closed =>
    exact .ordinary noBrace noSwitch (closed.extend solid.head?_closing pair.closing_ne_nil extra)
  | @brace _ _ later _ _ ended closed =>
    have brace : ∀ c ∈ ('\x7d' :: pair.closing).head?, Text.isBlank c = false := by
      rintro c ⟨⟩
      decide
    have ended' := ended.extend brace (List.cons_ne_nil _ _) extra
    have closed' := closed.extend solid.head?_closing pair.closing_ne_nil extra
    -- The delimiter behind the brace is the same one.
    rw [List.append_assoc] at closed'
    exact .brace ended' closed'
  | switch ended closed =>
    have sign : ∀ c ∈ ['='].head?, Text.isBlank c = false := by
      rintro c ⟨⟩
      decide
    have ended' := ended.extend sign (List.cons_ne_nil _ _) extra
    exact .switch ended' (closed.extend solid.head?_closing pair.closing_ne_nil extra)

/-- A tag is read in the same way if the text goes on behind it. -/
theorem readsTag_extend (solid : pair.Solid) {text body rest : Text} {sigil : Sigil}
    (tag : ReadsTag pair text sigil body rest) (extra : Text) :
    ReadsTag pair (text ++ extra) sigil body (rest ++ extra) := by
  obtain ⟨lead, gap, content, opens, closes⟩ := tag
  -- The content is not empty, so that it begins with the same character.
  have head : ∀ {c : Char}, c ∈ (content ++ extra).head? → c ∈ content.head? := by
    intro c first
    cases content with
    | nil =>
      have closes' : Closes pair [] sigil body (rest ++ []) := by rwa [List.append_nil]
      obtain ⟨content', same, nonempty, -⟩ := closes'.truncate
      exact absurd (List.append_eq_nil_iff.mp same.symm).1 nonempty
    | cons d more => exact first
  refine ⟨lead, gap, content ++ extra, ⟨?_, opens.lead_blank, opens.gap_blank,
    fun c first => opens.solid c (head first), fun plain => ?_⟩, solid.closes_extend closes extra⟩
  · -- What was opened is followed by more text than before.
    simp only [opens.whole, List.append_assoc]
  · obtain ⟨noGap, unmarked⟩ := opens.unmarked plain
    exact ⟨noGap, fun c first => unmarked c (head first)⟩

/-- A text that ends with a blank ends behind each of its tags. -/
theorem getLast?_rest (solid : pair.Solid) {text body rest : Text} {sigil : Sigil}
    (tag : ReadsTag pair text sigil body rest) {c : Char} (ended : text.getLast? = some c)
    (blank : Text.isBlank c = true) : rest.getLast? = some c := by
  obtain ⟨written, rfl, lead, gap, trail, ending, parts⟩ := tag.tagForm
  by_cases empty : rest = []
  · -- Otherwise the closing delimiter would end with a blank.
    have last : pair.closing.getLast? = some c := by
      rw [empty, List.append_nil, parts.whole] at ended
      simpa only [List.getLast?_append_of_ne_nil _ pair.closing_ne_nil, ← List.append_assoc]
        using ended
    rw [solid.closing c (List.mem_of_getLast? last)] at blank
    cases blank
  · -- Else the last character is that of what stands behind the tag.
    rwa [List.getLast?_append_of_ne_nil _ empty] at ended

end Delimiters.Solid

/-- Where a literal first begins does not depend on what follows it. -/
theorem FirstAt.extend {literal before later : Text} (found : FirstAt literal before later)
    (extra : Text) : FirstAt literal before (later ++ extra) where
  here := found.here.trans (List.prefix_append ..)
  first := by
    intro n early stands
    have long := found.here.length_le
    -- An earlier place leaves room for the literal before the text goes on.
    refine found.first n early (List.prefix_of_prefix_length_le stands ?_ ?_)
    · rw [← List.append_assoc]
      exact (List.prefix_append _ extra).drop n
    · rw [List.length_drop, List.length_append]
      omega

/-- A literal without blanks that does not occur in a text that ends with one does not begin in it. -/
theorem Text.apart_of_blank_end {literal text : Text} (solid : ∀ c ∈ literal, isBlank c = false)
    (absent : ¬ literal <:+: text) {c : Char} (ended : text.getLast? = some c)
    (blank : isBlank c = true) (later : Text) :
    ∀ n < text.length, ¬ literal <+: (text ++ later).drop n := by
  intro n early stands
  rw [List.drop_append_of_le_length (Nat.le_of_lt early)] at stands
  -- A literal that ends in time stands in the text itself.
  by_cases within : literal.length ≤ (text.drop n).length
  · have inside := List.prefix_of_prefix_length_le stands (List.prefix_append ..) within
    exact absent (inside.isInfix.trans (List.drop_suffix ..).isInfix)
  · -- The literal would reach beyond the text, and the blank would be one of its characters.
    have reaches := List.prefix_of_prefix_length_le (List.prefix_append (text.drop n) later) stands
      (by omega)
    have last : c ∈ text.drop n := by
      refine List.mem_of_getLast? ?_
      rw [List.getLast?_drop, if_neg (by omega), ended]
    rw [solid c (reaches.subset last)] at blank
    cases blank

/-- A text that ends with a blank reads in front of another text as it reads by itself. -/
theorem Reads.append {pair : Delimiters} {offset : Nat} {text later : Text} {reading more : Reading}
    (reads : Reads pair offset text reading) (complete : reading.fault = none) (solid : pair.Solid)
    {c : Char} (ended : text.getLast? = some c) (blank : Text.isBlank c = true)
    (reads' : Reads (pair.last (reading.pieces.filterMap Template.switch?)) (offset + text.length)
      later more) :
    Reads pair offset (text ++ later) ⟨reading.pieces ++ more.pieces, more.fault⟩ := by
  -- The induction is on the reading up to the last tag, behind which the blank stands.
  induction reads with
  | finished absent =>
    rw [Piece.filterMap_switch?_ofText] at reads'
    exact .chars (Text.apart_of_blank_end solid.opening absent ended blank later) reads'
  | unclosed _ _ => cases complete
  | invalid _ _ _ => cases complete
  | @tag pair next offset stop before behind body rest sigil reading opened tag follows stops _
      ih =>
    have nonempty : behind ≠ [] := List.ne_nil_of_length_pos (Nat.zero_lt_of_lt tag.length_lt)
    rw [List.getLast?_append_of_ne_nil _ nonempty] at ended
    rw [follows.last_eq, ← stops] at reads'
    -- What stands behind the tag ends with the blank too.
    have further := ih complete (follows.solid solid) (solid.getLast?_rest tag ended blank) reads'
    rw [List.append_assoc, List.append_assoc, List.cons_append]
    refine .tag (opened.extend later) (solid.readsTag_extend tag later) follows ?_ further
    simp only [List.length_append] at stops ⊢
    omega

end Mustache
