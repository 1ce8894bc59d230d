import Mustache.Template.Nesting

/-!
Sections as brackets: tags in which every section is closed, and those that leave some open.

The stack of open sections is what the tags before a place leave open.
-/

namespace Mustache

/-- Whether a tag opens a section. -/
def Sigil.opensSection : Sigil → Bool
  | .opener => true
  | .inverter => true
  | _ => false

/-- The tag of a piece that is one. -/
def Piece.tag? : Piece → Option Tag
  | .char _ _ => none
  | .tag t => some t

/-- The tags of a row of pieces, in reading order. -/
def Piece.tags (pieces : List Piece) : List Tag := pieces.filterMap Piece.tag?

/-- The tags of pieces side by side. -/
theorem Piece.tags_append (before later : List Piece) :
    tags (before ++ later) = tags before ++ tags later :=
  List.filterMap_append

/-- A tag is the first one of those behind it. -/
theorem Piece.tags_tag (tag : Tag) (later : List Piece) : tags (.tag tag :: later) = tag :: tags later :=
  rfl

/-- There are no tags in a text. -/
theorem Piece.tags_ofText (offset : Nat) (t : Text) : tags (ofText offset t) = [] := by
  -- Each piece is a character.
  induction t generalizing offset with
  | nil => rfl
  | cons c t ih => exact ih (offset + 1)

/-- Tags in which every section is closed by a tag of its name. -/
inductive Balanced : List Tag → Prop
  /-- There are no tags. -/
  | nil : Balanced []
  /-- A tag comes first that neither opens nor closes a section. -/
  | other {tag : Tag} {later : List Tag} (opensNone : tag.sigil.opensSection = false)
      (closesNone : tag.sigil ≠ .closer) (balanced : Balanced later) : Balanced (tag :: later)
  /-- A section comes first, with its own tags inside. -/
  | block {opened closed : Tag} {inside later : List Tag}
      (opens : opened.sigil.opensSection = true) (closes : closed.sigil = .closer)
      (named : opened.body = closed.body) (inner : Balanced inside) (balanced : Balanced later) :
      Balanced (opened :: (inside ++ closed :: later))

/-- The opening tags of the sections that some tags leave open, the innermost first. -/
inductive LeavesOpen : List Tag → List Tag → Prop
  /-- No section is left open. -/
  | none {tags : List Tag} (balanced : Balanced tags) : LeavesOpen tags []
  /-- A section is opened, and the sections inside are closed. -/
  | opened {before inside outer : List Tag} {innermost : Tag} (earlier : LeavesOpen before outer)
      (opens : innermost.sigil.opensSection = true) (inner : Balanced inside) :
      LeavesOpen (before ++ innermost :: inside) (innermost :: outer)

/-- Balanced tags after balanced tags are balanced. -/
theorem Balanced.append {before later : List Tag} (balanced : Balanced before)
    (balanced' : Balanced later) : Balanced (before ++ later) := by
  -- The later tags come behind the last of the earlier ones.
  induction balanced with
  | nil => exact balanced'
  | other opensNone closesNone _ ih => exact .other opensNone closesNone ih
  | block opens closes named inner _ _ ih =>
    simp only [List.cons_append, List.append_assoc]
    exact .block opens closes named inner ih

namespace LeavesOpen

variable {tags stack : List Tag}

/-- Tags that leave no section open are balanced. -/
theorem balanced (open' : LeavesOpen tags []) : Balanced tags := by
  -- Only the first case leaves none open.
  cases open' with
  | none balanced => exact balanced

/-- Balanced tags leave open what was open before. -/
theorem append (earlier : LeavesOpen tags stack) {later : List Tag} (balanced : Balanced later) :
    LeavesOpen (tags ++ later) stack := by
  -- They come behind the tags inside the innermost open section.
  cases earlier with
  | none balanced' => exact .none (balanced'.append balanced)
  | opened earlier opens inner =>
    rw [List.append_assoc, List.cons_append]
    exact .opened earlier opens (inner.append balanced)

/-- A tag that neither opens nor closes a section leaves open what was open before. -/
theorem other (earlier : LeavesOpen tags stack) {tag : Tag}
    (opensNone : tag.sigil.opensSection = false) (closesNone : tag.sigil ≠ .closer) :
    LeavesOpen (tags ++ [tag]) stack :=
  earlier.append (.other opensNone closesNone .nil)

/-- An opening tag leaves its section open. -/
theorem opener (earlier : LeavesOpen tags stack) {tag : Tag}
    (opens : tag.sigil.opensSection = true) : LeavesOpen (tags ++ [tag]) (tag :: stack) :=
  .opened earlier opens .nil

/-- A closing tag of the same name closes the innermost open section. -/
theorem closer {innermost : Tag} (earlier : LeavesOpen tags (innermost :: stack)) {tag : Tag}
    (closes : tag.sigil = .closer) (named : innermost.body = tag.body) :
    LeavesOpen (tags ++ [tag]) stack := by
  -- The section is now balanced, behind the tags that leave the outer sections open.
  cases earlier with
  | opened earlier opens inner =>
    rw [List.append_assoc, List.cons_append]
    exact earlier.append (.block opens closes named inner .nil)

end LeavesOpen

namespace Piece

section Steps

variable {stack : List Tag} {tag : Tag} {rest : List Piece}

/-- An opening tag goes on the stack. -/
theorem openAfter_opener (opens : tag.sigil.opensSection = true) :
    openAfter stack (.tag tag :: rest) = openAfter (tag :: stack) rest := by
  -- Two sigils open a section.
  cases sigil : tag.sigil <;> simp_all [openAfter, Sigil.opensSection]

/-- A tag that neither opens nor closes a section does not change the stack. -/
theorem openAfter_other (opensNone : tag.sigil.opensSection = false)
    (closesNone : tag.sigil ≠ .closer) :
    openAfter stack (.tag tag :: rest) = openAfter stack rest := by
  -- The other sigils are passed over.
  cases sigil : tag.sigil <;> simp_all [openAfter, Sigil.opensSection]

/-- A closing tag outside all sections is a fault. -/
theorem openAfter_unopened (closes : tag.sigil = .closer) :
    openAfter [] (.tag tag :: rest) = .error (.unopenedSection tag.body tag.start) := by
  -- The stack is empty.
  simp [openAfter, closes]

/-- A closing tag takes the innermost open section off the stack, if it is the one it names. -/
theorem openAfter_closer {innermost : Tag} (closes : tag.sigil = .closer) :
    openAfter (innermost :: stack) (.tag tag :: rest)
      = if innermost.body = tag.body then openAfter stack rest
        else .error (.unclosedSection innermost.body tag.start) := by
  -- The innermost open section is on top.
  simp [openAfter, closes]

/-- Where no closing tag is at fault, the first one closes the innermost open section. -/
theorem openAfter_closer_ok {left : List Tag} (closes : tag.sigil = .closer)
    (matched : openAfter stack (.tag tag :: rest) = .ok left) :
    ∃ innermost outer, stack = innermost :: outer ∧ innermost.body = tag.body
      ∧ openAfter outer rest = .ok left := by
  -- Without an open section, or with one of another name, the tag would be at fault.
  cases stack with
  | nil =>
    rw [openAfter_unopened closes] at matched
    cases matched
  | cons innermost outer =>
    rw [openAfter_closer closes] at matched
    by_cases named : innermost.body = tag.body
    · rw [if_pos named] at matched
      -- It closes the innermost section, as it has its name.
      exact ⟨innermost, outer, rfl, named, matched⟩
    · rw [if_neg named] at matched
      cases matched

end Steps

/-- A piece changes the stack, and those behind it go on with what it leaves. -/
theorem openAfter_cons (stack : List Tag) (piece : Piece) (rest : List Piece) :
    openAfter stack (piece :: rest)
      = (openAfter stack [piece]).bind fun left => openAfter left rest := by
  -- What a piece does to the stack depends on its sigil.
  cases piece with
  | char c offset => rfl
  | tag t =>
    cases opens : t.sigil.opensSection with
    | true =>
      rw [openAfter_opener opens, openAfter_opener opens]
      rfl
    | false =>
      by_cases closes : t.sigil = .closer
      · -- A closing tag may be at fault, and then nothing behind it is looked at.
        cases stack with
        | nil =>
          rw [openAfter_unopened closes, openAfter_unopened closes]
          rfl
        | cons innermost outer =>
          rw [openAfter_closer closes, openAfter_closer closes]
          split <;> rfl
      · rw [openAfter_other opens closes, openAfter_other opens closes]
        rfl

/-- Only the tags of a row of pieces open and close sections. -/
theorem openAfter_map_tags (stack : List Tag) (pieces : List Piece) :
    openAfter stack ((tags pieces).map .tag) = openAfter stack pieces := by
  -- The induction is on the pieces, whose characters are passed over.
  induction pieces generalizing stack with
  | nil => rfl
  | cons piece rest ih =>
    cases piece with
    | char c offset => exact ih stack
    | tag t =>
      -- A tag is looked at in the same way, and the induction takes care of those behind it.
      show openAfter stack (.tag t :: (tags rest).map .tag) = _
      rw [openAfter_cons, openAfter_cons stack (.tag t) rest]
      simp only [ih]

/-- Balanced tags leave the stack as it is. -/
theorem openAfter_balanced {row : List Tag} (balanced : Balanced row) (stack : List Tag)
    (rest : List Piece) : openAfter stack (row.map .tag ++ rest) = openAfter stack rest := by
  -- The induction follows the balanced row, with whatever is on the stack around it.
  induction balanced generalizing stack rest with
  | nil => rfl
  | other opensNone closesNone _ ih =>
    rw [List.map_cons, List.cons_append, openAfter_other opensNone closesNone, ih]
  | block opens closes named _ _ ih ih' =>
    -- The section goes on the stack, its inside does not matter, and it is taken off again.
    simp only [List.map_cons, List.map_append, List.cons_append, List.append_assoc]
    rw [openAfter_opener opens, ih, openAfter_closer closes, if_pos named, ih']

/-- The stack after some tags consists of what they leave open. -/
theorem openAfter_leavesOpen {row stack : List Tag} (leaves : LeavesOpen row stack)
    (rest : List Piece) : openAfter [] (row.map .tag ++ rest) = openAfter stack rest := by
  induction leaves generalizing rest with
  | none balanced => exact openAfter_balanced balanced [] rest
  | opened _ opens inner ih =>
    -- The outer sections are on the stack already when the innermost comes.
    simp only [List.map_append, List.map_cons, List.append_assoc, List.cons_append]
    rw [ih, openAfter_opener opens, openAfter_balanced inner]

/--
A closing tag behind some tags that does not close the innermost section they leave open.

It is a fault, which shows at the start of the tag.
-/
inductive Misplaced (before : List Tag) (closer : Tag) : Fault → Prop
  /-- No section is open. -/
  | unopened (balanced : Balanced before) (closes : closer.sigil = .closer) :
      Misplaced before closer (.unopenedSection closer.body closer.start)
  /-- The innermost open section has another name. -/
  | mismatched {innermost : Tag} {outer : List Tag} (leaves : LeavesOpen before (innermost :: outer))
      (closes : closer.sigil = .closer) (differs : innermost.body ≠ closer.body) :
      Misplaced before closer (.unclosedSection innermost.body closer.start)

/-- A misplaced closing tag is a fault, whatever comes behind it. -/
theorem openAfter_misplaced {before later : List Tag} {closer : Tag} {fault : Fault}
    (misplaced : Misplaced before closer fault) :
    openAfter [] ((before ++ closer :: later).map .tag) = .error fault := by
  -- The tags in front have been passed over when it comes.
  rw [List.map_append, List.map_cons]
  cases misplaced with
  | unopened balanced closes => rw [openAfter_balanced balanced, openAfter_unopened closes]
  | mismatched leaves closes differs =>
    rw [openAfter_leavesOpen leaves, openAfter_closer closes, if_neg differs]

/-- Behind some tags others either leave a stack of open sections or have a misplaced closing tag. -/
theorem openAfter_cases {before stack : List Tag} (earlier : LeavesOpen before stack)
    (row : List Tag) :
    (∃ left, openAfter stack (row.map .tag) = .ok left ∧ LeavesOpen (before ++ row) left)
      ∨ ∃ passed closer later fault, row = passed ++ closer :: later
        ∧ openAfter stack (row.map .tag) = .error fault
        ∧ Misplaced (before ++ passed) closer fault := by
  -- The induction moves one tag after the other to those in front.
  induction row generalizing before stack with
  | nil => exact .inl ⟨stack, rfl, (List.append_nil before).symm ▸ earlier⟩
  | cons tag row ih =>
    -- Unless the tag itself is misplaced, what the others do with the stack it leaves decides.
    have step : ∀ {stack' : List Tag}, LeavesOpen (before ++ [tag]) stack' →
        openAfter stack ((tag :: row).map .tag) = openAfter stack' (row.map .tag) →
        (∃ left, openAfter stack ((tag :: row).map .tag) = .ok left
          ∧ LeavesOpen (before ++ tag :: row) left)
        ∨ ∃ passed closer later fault, tag :: row = passed ++ closer :: later
          ∧ openAfter stack ((tag :: row).map .tag) = .error fault
          ∧ Misplaced (before ++ passed) closer fault := by
      intro stack' leaves same
      rw [same]
      rcases ih leaves with ⟨left, ends, leaves'⟩ | ⟨passed, closer, later, fault, rfl, fails, bad⟩
      · refine .inl ⟨left, ends, ?_⟩
        rwa [List.append_assoc] at leaves'
      · refine .inr ⟨tag :: passed, closer, later, fault, rfl, fails, ?_⟩
        rwa [List.append_assoc] at bad
    -- Only a closing tag can be misplaced, when nothing is open or another section is innermost.
    by_cases closes : tag.sigil = .closer
    · have failed : ∀ {fault : Fault}, openAfter stack ((tag :: row).map .tag) = .error fault →
          Misplaced before tag fault →
          ∃ passed closer later fault, tag :: row = passed ++ closer :: later
            ∧ openAfter stack ((tag :: row).map .tag) = .error fault
            ∧ Misplaced (before ++ passed) closer fault := by
        intro fault fails bad
        exact ⟨[], tag, row, fault, rfl, fails, (List.append_nil before).symm ▸ bad⟩
      cases stack with
      | nil => exact .inr (failed (openAfter_unopened closes) (.unopened earlier.balanced closes))
      | cons innermost outer =>
        by_cases named : innermost.body = tag.body
        · refine step (earlier.closer closes named) ?_
          rw [List.map_cons, openAfter_closer closes, if_pos named]
        · refine .inr (failed ?_ (.mismatched earlier closes named))
          rw [List.map_cons, openAfter_closer closes, if_neg named]
    · cases opens : tag.sigil.opensSection with
      | true => exact step (earlier.opener opens) (openAfter_opener opens)
      | false => exact step (earlier.other opens closes) (openAfter_other opens closes)

/-- The stack after a row of pieces is what its tags leave open. -/
theorem openAfter_eq_ok_iff {pieces : List Piece} {stack : List Tag} :
    openAfter [] pieces = .ok stack ↔ LeavesOpen (tags pieces) stack := by
  rw [← openAfter_map_tags]
  constructor
  · -- The tags leave sections open or have one that is misplaced, which would be an error.
    intro ends
    rcases openAfter_cases (.none .nil) (tags pieces) with ⟨left, ends', leaves⟩ | ⟨_, _, _, _, _, fails, _⟩
    · rw [ends, Except.ok.injEq] at ends'
      exact ends' ▸ leaves
    · rw [ends] at fails
      cases fails
  · -- Nothing comes behind the tags.
    intro leaves
    simpa [openAfter] using openAfter_leavesOpen leaves []

/-- Matching sections fails exactly at the first misplaced closing tag. -/
theorem openAfter_eq_error_iff {pieces : List Piece} {fault : Fault} :
    openAfter [] pieces = .error fault
      ↔ ∃ before closer later, tags pieces = before ++ closer :: later
        ∧ Misplaced before closer fault := by
  rw [← openAfter_map_tags]
  constructor
  · intro fails
    -- Matching comes to an end, or stops at a closing tag that is misplaced.
    rcases openAfter_cases (.none .nil) (tags pieces) with
      ⟨_, ends, _⟩ | ⟨passed, closer, later, fault', split, fails', bad⟩
    · rw [fails] at ends
      cases ends
    · rw [fails, Except.error.injEq] at fails'
      exact ⟨passed, closer, later, split, fails' ▸ bad⟩
  · -- Whatever comes behind the misplaced tag, matching stops at it.
    rintro ⟨before, closer, later, split, bad⟩
    rw [split]
    exact openAfter_misplaced bad

end Piece

end Mustache
