import Mathlib.Logic.ExistsUnique
import Mustache.Proofs.Reading
import Mustache.Proofs.Sections
import Mustache.Template

/-!
Which sources are templates, and what is reported of the others.

A template reads to its end and has balanced sections; otherwise the first fault in reading order
is reported.
-/

namespace Mustache

/-- A source that reads to its end, with balanced sections. -/
def WellFormed (source : Text) (pair : Delimiters) : Prop :=
  ∃ pieces, Reads pair 0 source ⟨pieces, none⟩ ∧ Balanced (Piece.tags pieces)

/-- The first fault of a source that reads in a given way. -/
inductive FirstFault (source : Text) (reading : Reading) : Fault → Prop
  /-- A closing tag is misplaced, and was read before whatever ended the reading. -/
  | misplaced {before later : List Tag} {closer : Tag} {fault : Fault}
      (split : Piece.tags reading.pieces = before ++ closer :: later)
      (misplaced : Piece.Misplaced before closer fault) : FirstFault source reading fault
  /-- A tag is not closed, which shows at the end of the source. -/
  | unclosedTag {stack : List Tag} (matched : LeavesOpen (Piece.tags reading.pieces) stack)
      (unclosed : reading.fault = some (.unclosedTag source.length)) :
      FirstFault source reading (.unclosedTag source.length)
  /-- A change of delimiters is invalid, which shows at the start of its tag. -/
  | invalidTags {stack : List Tag} {words : List Text} {start : Nat}
      (matched : LeavesOpen (Piece.tags reading.pieces) stack)
      (invalid : reading.fault = some (.invalidTags words start)) :
      FirstFault source reading (.invalidTags words start)
  /-- Nothing else is wrong, but a section is open at the end of the source. -/
  | unfinished {innermost : Tag} {outer : List Tag} (complete : reading.fault = none)
      (leaves : LeavesOpen (Piece.tags reading.pieces) (innermost :: outer)) :
      FirstFault source reading (.unclosedSection innermost.body source.length)

/-- A reading ends at the end of the text, at a tag that is not closed, or at a wrong change. -/
theorem Reads.fault_cases {pair : Delimiters} {offset : Nat} {text : Text} {reading : Reading}
    (reads : Reads pair offset text reading) :
    reading.fault = none ∨ reading.fault = some (.unclosedTag (offset + text.length))
      ∨ ∃ words start, reading.fault = some (.invalidTags words start) := by
  -- The induction is on the tags; any other end is that of the whole text.
  induction reads with
  | finished _ => exact .inl rfl
  | unclosed _ _ => exact .inr (.inl rfl)
  | invalid _ _ _ => exact .inr (.inr ⟨_, _, rfl⟩)
  | tag _ _ _ stops _ ih =>
    -- What is left behind a tag ends where the whole text does.
    rw [← stops]
    exact ih

namespace Template

/-- The first fault of a source is what is found to be wrong with it. -/
theorem fault?_eq_some_iff {source : Text} {pair : Delimiters} {fault : Fault} :
    fault? source pair = some fault
      ↔ FirstFault source (Reading.ofSource source pair) fault := by
  have ends := (reads_iff.mpr rfl : Reads pair 0 source _).fault_cases
  rw [fault?]
  generalize Reading.ofSource source pair = reading at ends
  rw [Nat.zero_add] at ends
  cases opened : Piece.openAfter [] reading.pieces with
  | error found =>
    obtain ⟨before, closer, later, split, bad⟩ := Piece.openAfter_eq_error_iff.mp opened
    simp only [Option.some.injEq]
    constructor
    · rintro rfl
      exact .misplaced split bad
    · rintro (⟨split', bad'⟩ | ⟨matched, _⟩ | ⟨matched, _⟩ | ⟨_, leaves⟩)
      · -- Both are found by matching sections.
        rw [Piece.openAfter_eq_error_iff.mpr ⟨_, _, _, split', bad'⟩, Except.error.injEq] at opened
        exact opened.symm
      all_goals
        have matched := Piece.openAfter_eq_ok_iff.mpr ‹LeavesOpen _ _›
        rw [opened] at matched
        cases matched
  | ok stack =>
    have leaves := Piece.openAfter_eq_ok_iff.mp opened
    -- The stack is all that the tags leave open, so that no closing tag is misplaced.
    have same : ∀ {stack'}, LeavesOpen (Piece.tags reading.pieces) stack' → stack' = stack := by
      intro stack' leaves'
      rw [Piece.openAfter_eq_ok_iff.mpr leaves', Except.ok.injEq] at opened
      exact opened
    have placed : ∀ {before closer later fault},
        Piece.tags reading.pieces = before ++ closer :: later →
        ¬ Piece.Misplaced before closer fault := by
      intro before closer later fault split bad
      rw [Piece.openAfter_eq_error_iff.mpr ⟨_, _, _, split, bad⟩] at opened
      cases opened
    constructor
    · intro found
      rcases ends with none | unclosed | ⟨words, start, invalid⟩
      · rw [none] at found
        cases stack with
        | nil => simp at found
        | cons innermost outer =>
          obtain rfl := Option.some.inj found
          exact .unfinished none leaves
      · rw [unclosed] at found
        obtain rfl := Option.some.inj found
        exact .unclosedTag leaves unclosed
      · rw [invalid] at found
        obtain rfl := Option.some.inj found
        exact .invalidTags leaves invalid
    · rintro (⟨split, bad⟩ | ⟨-, unclosed⟩ | ⟨-, invalid⟩ | ⟨complete, leaves'⟩)
      · exact absurd bad (placed split)
      · rw [unclosed]
      · rw [invalid]
      · rw [complete, ← same leaves']

/-- Nothing is found to be wrong with a source exactly when it is well-formed. -/
theorem fault?_eq_none_iff {source : Text} {pair : Delimiters} :
    fault? source pair = none ↔ WellFormed source pair := by
  rw [fault?]
  constructor
  · intro sound
    -- The reading is complete, and it leaves no section open.
    split at sound
    · cases sound
    · rename_i stack opened
      split at sound
      · cases sound
      · cases sound
      · rename_i complete
        refine ⟨(Reading.ofSource source pair).pieces, reads_iff.mpr ?_,
          (Piece.openAfter_eq_ok_iff.mp opened).balanced⟩
        rw [← complete]
  · -- A source whose tags are balanced has nothing misplaced, nothing open and nothing invalid.
    rintro ⟨pieces, reads, balanced⟩
    have opened := Piece.openAfter_eq_ok_iff.mpr (LeavesOpen.none balanced)
    rw [← reads_iff.mp reads, opened]

/-- Parsing fails with what is found to be wrong. -/
theorem parse_eq_error_iff {source : Text} {pair : Delimiters} {fault : Fault} :
    parse source pair = .error fault ↔ fault? source pair = some fault := by
  -- There is a fault or none, and parsing looks at nothing else.
  rw [parse]
  cases fault? source pair <;> simp

end Template

/--
A report of a fault.

It has the offset of the fault. Its message says of which kind the fault is, which section it is about
if it is about one, and at which offset it is; of a change of delimiters it shows the words instead.
-/
inductive Fault.Reported (report : ParseError) : Fault → Prop
  /-- A tag is not closed. -/
  | unclosedTag {offset : Nat} (place : report.offset = some (offset : Int))
      (message : report.message = "Unclosed tag at ".toList ++ Nat.toDigits 10 offset) :
      Reported report (.unclosedTag offset)
  /-- A closing tag of this name has no open section. -/
  | unopenedSection {name : Text} {offset : Nat} (place : report.offset = some (offset : Int))
      (message : report.message = "Unopened section ".toList ++ '"' :: name ++ ['"']
        ++ " at ".toList ++ Nat.toDigits 10 offset) :
      Reported report (.unopenedSection name offset)
  /-- A section of this name is not closed. -/
  | unclosedSection {name : Text} {offset : Nat} (place : report.offset = some (offset : Int))
      (message : report.message = "Unclosed section ".toList ++ '"' :: name ++ ['"']
        ++ " at ".toList ++ Nat.toDigits 10 offset) :
      Reported report (.unclosedSection name offset)
  /-- These words are no delimiters. -/
  | invalidTags {words : List Text} {offset : Nat} (place : report.offset = some (offset : Int))
      (message : report.message = "Invalid tags: ".toList ++ '[' :: ", ".toList.intercalate
        (words.map Text.quoted) ++ [']']) :
      Reported report (.invalidTags words offset)

/-- The report of a fault says what the fault is. -/
theorem Fault.reported_toError (fault : Fault) (source : Text) :
    fault.Reported (fault.toError source) := by
  -- The fixed words of a message are the characters of a literal.
  have literal (s : String) : Text.ofString s = s.toList := by rw [Text.ofString]
  -- Each kind of fault has words of its own.
  cases fault with
  | unclosedTag offset =>
    refine .unclosedTag rfl ?_
    change Text.ofString _ ++ _ = _
    rw [literal]
    rfl
  | unopenedSection name offset =>
    refine .unopenedSection rfl ?_
    change Text.ofString _ ++ named name ++ Text.ofString _ ++ _ = _
    rw [literal, literal]
    rfl
  | unclosedSection name offset =>
    refine .unclosedSection rfl ?_
    change Text.ofString _ ++ named name ++ Text.ofString _ ++ _ = _
    rw [literal, literal]
    rfl
  | invalidTags words offset =>
    refine .invalidTags rfl ?_
    change Text.ofString _ ++ writtenWords words = _
    rw [literal]
    rfl

/--
Parsing accepts exactly the well-formed sources and reports the first fault of any other.

A source reads in one way only, so that there is one first fault.
The report has the offset of the fault and says what it is: its kind, the name of the section that it
is about, and the offset once more.
-/
theorem Template.parse_accepts_or_reports_first (source : Text) (pair : Delimiters) :
    (∃! reading, Reads pair 0 source reading)
      ∧ ((∃ tokens, parse source pair = .ok tokens) ↔ WellFormed source pair)
      ∧ (∀ fault, parse source pair = .error fault
          ↔ ∃ reading, Reads pair 0 source reading ∧ FirstFault source reading fault)
      ∧ ∀ fault, parse source pair = .error fault → fault.Reported (fault.toError source) := by
  refine ⟨⟨_, reads_iff.mpr rfl, fun _ => reads_iff.mp⟩, ?_, fun fault => ?_, fun fault _ =>
    fault.reported_toError source⟩
  · -- Parsing succeeds where nothing is found to be wrong.
    rw [← fault?_eq_none_iff, parse]
    cases fault? source pair <;> simp
  · -- A fault is found exactly where it is the first one of the reading.
    simp only [reads_iff, exists_eq_left, ← fault?_eq_some_iff, parse_eq_error_iff]

/-- A section that stays open is reported at the end of the source. -/
theorem Template.parse_reports_open_section :
    let source : Text := ['\x7b', '\x7b', '#', 'a', '\x7d', '\x7d']
    let fault := Fault.unclosedSection ['a'] 6
    parse source .default = .error fault ∧ (fault.toError source).offset = some 6
      ∧ (fault.toError source).message = "Unclosed section \"a\" at 6".toList := by
  have failed : parse ['\x7b', '\x7b', '#', 'a', '\x7d', '\x7d'] .default
      = .error (.unclosedSection ['a'] 6) := by decide +kernel
  obtain ⟨-, -, -, reports⟩ := parse_accepts_or_reports_first
    ['\x7b', '\x7b', '#', 'a', '\x7d', '\x7d'] .default
  -- The message of this fault names the section.
  cases reports _ failed with
  | unclosedSection place message => exact ⟨failed, place, message.trans (by decide)⟩

end Mustache
