import Mustache.Template.Tag

/-! A source cut into single characters of text and whole tags. -/

namespace Mustache

/-- A character of text or a tag. -/
inductive Piece where
  /-- A character outside all tags, with its offset. -/
  | char (c : Char) (offset : Nat)
  /-- A tag. -/
  | tag (tag : Tag)
  deriving DecidableEq, Repr

/-- The characters of a text that starts at an offset. -/
def Piece.ofText (offset : Nat) : Text → List Piece
  | [] => []
  | c :: rest => .char c offset :: ofText (offset + 1) rest

/-- The delimiters after a tag, unless it changes them to something that is no pair. -/
def Delimiters.after? (pair : Delimiters) (tag : Tag) : Option Delimiters :=
  match tag.sigil with
  | .switch => ofBody? tag.body
  | _ => some pair

/-- How far a source can be cut into pieces. -/
structure Reading where
  /-- The pieces up to the end, or up to the first tag that cannot be read. -/
  pieces : List Piece
  /-- What is wrong with that tag. -/
  fault : Option Fault
  deriving DecidableEq, Repr

namespace Scanner

/--
Cut a source into pieces from a place on, each change of delimiters holding after its tag.

At most so many tags are read.
-/
def readPieces : Nat → Scanner → Delimiters → Reading
  | 0, _, _ => ⟨[], none⟩
  | most + 1, s, pair =>
    let found := s.scanUntil (.opening pair.opening)
    let chars := Piece.ofText s.pos found.1
    if found.2.atEnd then ⟨chars, none⟩
    else
      match found.2.readTag? pair with
      | none => ⟨chars, some (.unclosedTag s.source.length)⟩
      | some (tag, afterTag) =>
        match pair.after? tag with
        | none => ⟨chars, some (.invalidTags (Text.firstWords tag.body) tag.start)⟩
        | some next =>
          let later := readPieces most afterTag next
          ⟨chars ++ .tag tag :: later.pieces, later.fault⟩

/-- How many tags may be read makes no difference when it exceeds the characters that are left. -/
theorem readPieces_eq {most more : Nat} {s : Scanner} (pair : Delimiters)
    (enough : s.tail.length < most) (also : s.tail.length < more) :
    readPieces most s pair = readPieces more s pair := by
  -- Every tag leaves less than there was, so both numbers stay large enough.
  induction most generalizing more s pair with
  | zero => omega
  | succ most ih =>
    cases more with
    | zero => omega
    | succ more =>
      simp only [readPieces]
      split
      · rfl
      · split
        · rfl
        · rename_i tag afterTag read
          split
          · rfl
          -- Behind the tag less is left, so that both numbers are enough for it.
          · rename_i next _
            have less := length_tail_readTag read
            have before := length_tail_scanUntil s (.opening pair.opening)
            have same : readPieces most afterTag next = readPieces more afterTag next :=
              ih next (by omega) (by omega)
            rw [same]

end Scanner

/-- The pieces of a source. -/
def Reading.ofSource (source : Text) (pair : Delimiters) : Reading :=
  -- Every tag has a character of its own, so there are no more tags than characters.
  Scanner.readPieces (source.length + 1) (.ofSource source) pair

end Mustache
