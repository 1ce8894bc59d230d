import Mustache.Proofs.FirstFault
import Mustache.Proofs.Forest

/-!
A written forest is read as its pieces.

What stands behind a tag or a text makes no difference to where it ends.
-/

namespace Mustache

/-- A literal that begins with a character not seen before, and no blank, is where the cut is. -/
theorem Cut.of_absent {c : Char} {literal before pad after : Text}
    (solid : Text.isBlank c = false) (absent : c ∉ before)
    (tight : ∀ last ∈ before.getLast?, Text.isBlank last = false) (blank : pad.Blank) :
    Cut (c :: literal) (before ++ (pad ++ (c :: literal ++ after))) before pad after where
  whole := rfl
  blank := blank
  tight := tight
  first := by
    -- The first character of the literal would be one of those before.
    rintro n early ⟨more, same⟩
    rw [List.drop_append_of_le_length (Nat.le_of_lt early), List.drop_eq_getElem_cons early] at same
    exact absent ((List.cons.inj same).1 ▸ List.getElem_mem early)
  longest := (Cut.of_solid solid blank).longest

namespace Node

variable {sigil : Sigil} {body : Text}

/-- A body that fits is read up to the end of its tag. -/
theorem closes_written (noSwitch : sigil ≠ .switch) (fits : Fits sigil body) {trail : Text}
    (blank : trail.Blank) (rest : Text) :
    Closes .default (body ++ (trail ++ (sigil.ending ++ (Delimiters.default.closing ++ rest))))
      sigil body rest := by
  by_cases brace : sigil = .brace
  · subst brace
    -- The brace is the first one behind the body, and the delimiter follows at once.
    exact .brace (.of_absent (by decide) fits.braceless.2 fits.last blank)
      (.of_solid (by decide) Text.blank_nil)
  · -- With no brace to come the body ends at the delimiter.
    have none : sigil.ending = [] := by cases sigil <;> first | rfl | contradiction
    rw [none, List.nil_append]
    exact .ordinary brace noSwitch (.of_absent (by decide) fits.braceless.2 fits.last blank)

/-- Around an empty body all blanks count as those in front of it. -/
theorem blanks_around (body : Text) {gap trail : Text} (gapBlank : gap.Blank)
    (trailBlank : trail.Blank) :
    ∃ gap' trail' : Text, gap'.Blank ∧ trail'.Blank ∧ (body = [] → trail' = [])
      ∧ ∀ rest, gap ++ (body ++ (trail ++ rest)) = gap' ++ (body ++ (trail' ++ rest)) := by
  -- With a body in between the blanks stay where they are.
  cases body with
  | nil =>
    refine ⟨gap ++ trail, [], (Text.blank_append ..).mpr ⟨gapBlank, trailBlank⟩, Text.blank_nil,
      fun _ => rfl, fun rest => ?_⟩
    rw [List.nil_append, List.nil_append, List.nil_append, List.append_assoc]
  | cons c more => exact ⟨gap, trail, gapBlank, trailBlank, nofun, fun _ => rfl⟩

/-- A written tag goes on with its body, and behind an empty one with a brace that closes it. -/
theorem head_written (sigil : Sigil) {trail : Text} (empty : body = [] → trail = []) (rest : Text) :
    ∀ c ∈ (body ++ (trail ++ (sigil.ending ++ (Delimiters.default.closing ++ rest)))).head?,
      c ∈ body.head? ∨ c = '\x7d' := by
  intro c first
  -- Without a body nothing comes before the closing brace.
  cases body with
  | nil =>
    rw [empty rfl] at first
    refine .inr ?_
    cases sigil <;> simpa [Sigil.ending, Delimiters.default, eq_comm] using first
  | cons d more => exact .inl first

/-- A written tag is read as this tag, whatever follows. -/
theorem readsTag_written (noSwitch : sigil ≠ .switch) (fits : Fits sigil body) (padding : Padding)
    (rest : Text) :
    ReadsTag .default (sigil.written body padding ++ rest) sigil body rest := by
  obtain ⟨lead, gap, trail, leadBlank, gapBlank, trailBlank⟩ := padding
  obtain ⟨gap', trail', gapBlank', trailBlank', empty, around⟩ :=
    blanks_around body gapBlank trailBlank
  have closes := closes_written noSwitch fits trailBlank' rest
  have head := head_written sigil empty rest
  -- What is written is opened by the delimiter and the mark, and its content closes it.
  have whole : sigil.written body ⟨lead, gap, trail, leadBlank, gapBlank, trailBlank⟩ ++ rest
      = Delimiters.default.opening ++ (lead ++ (sigil.mark ++ (gap' ++ (body ++ (trail'
        ++ (sigil.ending ++ (Delimiters.default.closing ++ rest))))))) := by
    simp only [Sigil.written, List.append_assoc, around]
  generalize body ++ (trail' ++ (sigil.ending ++ (Delimiters.default.closing ++ rest))) = content
    at closes head whole
  have solid : ∀ c ∈ content.head?, Text.isBlank c = false := by
    intro c member
    rcases head c member with inBody | rfl
    · exact fits.first c inBody
    · decide
  by_cases plain : sigil = .plain
  · subst plain
    have unmarked : ∀ c ∈ content.head?, c ∉ Pattern.sigils := by
      intro c member
      rcases head c member with inBody | rfl
      · exact fits.unmarked rfl c inBody
      · decide
    -- Without a mark the blanks on both sides of it are the same.
    refine ⟨lead ++ gap', [], content, ⟨?_, ?_, Text.blank_nil, solid, fun _ => ⟨rfl, unmarked⟩⟩,
      closes⟩
    · simpa [Sigil.mark] using whole
    · exact (Text.blank_append ..).mpr ⟨leadBlank, gapBlank'⟩
  · -- A mark keeps the blanks in front of it and behind it apart.
    exact ⟨lead, gap', content,
      ⟨whole, leadBlank, gapBlank', solid, fun isPlain => absurd isPlain plain⟩, closes⟩

end Node

/-- The characters of two texts side by side. -/
theorem Piece.ofText_append (offset : Nat) (before later : Text) :
    ofText offset (before ++ later) = ofText offset before ++ ofText (offset + before.length) later := by
  induction before generalizing offset with
  | nil => rfl
  | cons c before ih =>
    -- The other characters come one further on.
    rw [List.cons_append, ofText, ofText, ih, List.length_cons, List.cons_append]
    simp only [Nat.add_assoc, Nat.add_comm 1]

/-- Where a literal first begins does not depend on more text in front in which it does not begin. -/
theorem FirstAt.append {literal front before later : Text} (found : FirstAt literal before later)
    (apart : ∀ n < front.length, ¬ literal <+: (front ++ (before ++ later)).drop n) :
    FirstAt literal (front ++ before) later where
  here := found.here
  first := by
    intro n early stands
    rw [List.append_assoc] at stands
    by_cases within : n < front.length
    · -- In the text in front the literal does not begin.
      exact apart n within stands
    · -- The place lies behind the text in front.
      rw [List.drop_append, List.drop_eq_nil_of_le (by omega), List.nil_append] at stands
      rw [List.length_append] at early
      exact found.first (n - front.length) (by omega) stands

namespace Reads

variable {pair next : Delimiters} {offset stop : Nat} {reading : Reading}

/-- Characters in which no tag is opened are read in front of what follows. -/
theorem chars {before later : Text}
    (apart : ∀ n < before.length, ¬ pair.opening <+: (before ++ later).drop n)
    (reads : Reads pair (offset + before.length) later reading) :
    Reads pair offset (before ++ later)
      ⟨Piece.ofText offset before ++ reading.pieces, reading.fault⟩ := by
  have length_eq : ∀ later : Text,
      offset + (before ++ later).length = offset + before.length + later.length := by
    intro later
    rw [List.length_append, Nat.add_assoc]
  -- What is read behind the characters is read in front of them too, only further on.
  cases reads with
  | finished absent =>
    rw [← Piece.ofText_append]
    refine .finished ?_
    rintro ⟨front, back, same⟩
    -- The opening delimiter would begin in the characters or behind them.
    have here : pair.opening <+: (before ++ later).drop front.length := by
      rw [← same, List.append_assoc, List.drop_left]
      exact List.prefix_append ..
    by_cases within : front.length < before.length
    · exact apart _ within here
    · rw [List.drop_append, List.drop_eq_nil_of_le (by omega), List.nil_append] at here
      exact absent (here.isInfix.trans (List.drop_suffix ..).isInfix)
  | @unclosed _ _ before' later' opened unread =>
    have reads : Reads pair offset _ _ := .unclosed (opened.append apart) unread
    rw [Piece.ofText_append, List.append_assoc, length_eq] at reads
    exact reads
  | invalid opened tag few =>
    have reads : Reads pair offset _ _ := .invalid (opened.append apart) tag few
    rw [Piece.ofText_append, List.append_assoc, List.length_append, ← Nat.add_assoc] at reads
    exact reads
  | tag opened tag follows stops more =>
    rw [← length_eq, ← List.append_assoc] at stops
    have reads := Reads.tag (opened.append apart) tag follows stops more
    rw [Piece.ofText_append, List.append_assoc, List.length_append, ← Nat.add_assoc,
      List.append_assoc] at reads
    exact reads

/-- A text that begins with a tag is read as this tag and what follows. -/
theorem here {text body rest : Text} {sigil : Sigil} (tag : ReadsTag pair text sigil body rest)
    (follows : pair.Follows sigil body next) (stops : stop + rest.length = offset + text.length)
    (reads : Reads next stop rest reading) :
    Reads pair offset text ⟨.tag ⟨sigil, body, offset, stop⟩ :: reading.pieces, reading.fault⟩ := by
  have opened : FirstAt pair.opening [] text := by
    obtain ⟨lead, gap, content, opens, -⟩ := tag
    exact ⟨⟨_, opens.whole.symm⟩, nofun⟩
  -- No character comes before the tag.
  exact .tag opened tag follows stops reads

end Reads

namespace Node

/-- No tag is opened in a proper text, also not by what follows it. -/
theorem apart_of_proper {value : Text} (proper : (Node.text value).Proper) (rest : Text) :
    ∀ n < value.length, ¬ Delimiters.default.opening <+: (value ++ rest).drop n := by
  obtain ⟨-, single, last⟩ := proper
  -- Two braces that begin in the text are taken apart one by one.
  rintro n early ⟨more, same⟩
  rw [List.drop_append_of_le_length (Nat.le_of_lt early), List.drop_eq_getElem_cons early] at same
  obtain ⟨brace, same⟩ := List.cons.inj same
  -- The second brace would stand in the text, or the text would end in the first one.
  by_cases within : n + 1 < value.length
  · rw [List.drop_eq_getElem_cons within] at same
    have both : value.drop n = ['\x7b', '\x7b'] ++ value.drop (n + 2) := by
      rw [List.drop_eq_getElem_cons early, List.drop_eq_getElem_cons within, ← brace,
        ← (List.cons.inj same).1]
      rfl
    exact single ((List.prefix_append ..).isInfix.trans
      (both ▸ (List.drop_suffix n value).isInfix))
  · refine last ?_
    rw [List.getLast?_eq_getElem?, show value.length - 1 = n by omega,
      List.getElem?_eq_getElem early, ← brace]

/-- A tag that is no change of delimiters is read in front of what follows. -/
theorem reads_tag {sigil : Sigil} {body : Text} (noSwitch : sigil ≠ .switch)
    (fits : Fits sigil body) (padding : Padding) {offset : Nat} {rest : Text} {reading : Reading}
    (reads : Reads .default (offset + (sigil.written body padding).length) rest reading) :
    Reads .default offset (sigil.written body padding ++ rest)
      ⟨.tag ⟨sigil, body, offset, offset + (sigil.written body padding).length⟩ :: reading.pieces,
        reading.fault⟩ := by
  refine .here (readsTag_written noSwitch fits padding rest) (.kept noSwitch) ?_ reads
  -- What follows starts where the tag stops.
  rw [List.length_append, Nat.add_assoc]

/-- A name of a section that fits its opening tag fits its closing tag. -/
theorem Fits.closer {inverted : Bool} {name : Text} (fits : Fits (.ofInverted inverted) name) :
    Fits .closer name :=
  -- A closing tag asks for no more than the opening one does.
  ⟨fits.braceless, fits.first, fits.last, nofun⟩

/-- A sigil of a tag by itself is no change of delimiters, and neither is one of a section. -/
theorem Single.ne_switch {sigil : Sigil} (single : Single sigil) : sigil ≠ .switch := by
  -- A change of delimiters is none of the single tags.
  rintro rfl
  exact single

mutual

/-- A proper node is read in front of what follows. -/
theorem reads_written (node : Node) (proper : node.Proper) {offset : Nat} {rest : Text}
    {reading : Reading} (reads : Reads .default (offset + node.written.length) rest reading) :
    Reads .default offset (node.written ++ rest)
      ⟨node.pieces offset ++ reading.pieces, reading.fault⟩ := by
  -- The cases are the kinds of nodes; what stands inside a section is read by the other theorem.
  match node with
  | .text value => exact .chars (apart_of_proper proper rest) reads
  | .tag sigil body padding => exact reads_tag proper.1.ne_switch proper.2 padding reads
  | .block inverted name opening closing children =>
    obtain ⟨fits, inner⟩ := proper
    have noSwitch : Sigil.ofInverted inverted ≠ .switch := by cases inverted <;> decide
    rw [written, List.append_assoc, List.append_assoc] at *
    rw [List.length_append, List.length_append, ← Nat.add_assoc, ← Nat.add_assoc] at reads
    -- The closing tag is read behind the children, and they are behind the opening tag.
    have behind := reads_writtenAll children inner (reads_tag (by decide) fits.closer closing reads)
    have whole := reads_tag noSwitch fits opening behind
    simpa only [pieces, List.cons_append, List.append_assoc, List.nil_append] using whole

/-- A proper forest is read in front of what follows. -/
theorem reads_writtenAll (nodes : List Node) (proper : ProperAll nodes) {offset : Nat} {rest : Text}
    {reading : Reading} (reads : Reads .default (offset + (writtenAll nodes).length) rest reading) :
    Reads .default offset (writtenAll nodes ++ rest)
      ⟨piecesAll offset nodes ++ reading.pieces, reading.fault⟩ := by
  -- The recursion is on the row of nodes.
  match nodes with
  | [] => exact reads
  | node :: nodes =>
    obtain ⟨first, -, others⟩ := proper
    rw [writtenAll, List.length_append, ← Nat.add_assoc] at reads
    rw [writtenAll, List.append_assoc, piecesAll, List.append_assoc]
    -- The first node is read in front of the others.
    exact reads_written node first (reads_writtenAll nodes others reads)

end

end Node

end Mustache
