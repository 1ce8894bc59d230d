import Mustache.Template.Piece
import Mustache.Token

/-!
The lines of a template, and what each contributes to the token tree.

A line break inside a tag does not end a line.
A line that holds tags and otherwise only blanks contributes its tags alone.
-/

namespace Mustache

/-- An element of a template before sections are closed around their children. -/
inductive Flat where
  /-- A token without children. -/
  | leaf (token : Token)
  /-- The opening tag of a section. -/
  | opening (inverted : Bool) (name : Text) (span : Span)
  /-- The closing tag of a section, with its offset. -/
  | closing (name : Text) (start : Int)
  deriving DecidableEq, Repr

namespace Piece

/-- Whether a piece is the last one of its line. -/
def endsLine : Piece → Bool
  | .char c _ => c == '\n'
  | .tag _ => false

/-- Whether a piece is a tag. -/
def isTag : Piece → Bool
  | .char _ _ => false
  | .tag _ => true

/-- Whether a piece is a character that shows. -/
def isVisible : Piece → Bool
  | .char c _ => !Text.isBlank c
  | .tag _ => false

/-- The blank that a character of text leaves in an indentation: itself, or else a space. -/
def margin? : Piece → Option Char
  | .char c _ => some (if Text.isBlank c then c else ' ')
  | .tag _ => none

end Piece

/-- What stands before a tag, given the pieces before it on its line. -/
def LinePrefix.ofPieces (before : List Piece) : LinePrefix where
  indentation := before.filterMap Piece.margin?
  tagIndex := before.countP Piece.isTag
  hasText := before.any Piece.isVisible

namespace LinePrefix

/-- What stands before the place behind one more piece, with the indentations backwards. -/
def extend (before : LinePrefix) (piece : Piece) : LinePrefix where
  indentation := piece.margin?.toList ++ before.indentation
  tagIndex := if piece.isTag then before.tagIndex + 1 else before.tagIndex
  hasText := before.hasText || piece.isVisible

/-- The same with the indentation the other way round. -/
def turned (before : LinePrefix) : LinePrefix :=
  { before with indentation := before.indentation.reverse }

/-- Extending piece by piece gives what all the pieces together do. -/
theorem foldl_extend (start : LinePrefix) (pieces : List Piece) :
    pieces.foldl extend start
      = { indentation := (pieces.filterMap Piece.margin?).reverse ++ start.indentation
          tagIndex := start.tagIndex + pieces.countP Piece.isTag
          hasText := start.hasText || pieces.any Piece.isVisible } := by
  -- Each piece adds at most one blank, one tag and one thing that shows.
  induction pieces generalizing start with
  | nil => simp
  | cons piece pieces ih =>
    rw [List.foldl_cons, ih]
    cases piece with
    | char c offset => simp [extend, Piece.margin?, Piece.isTag, Bool.or_assoc]
    | tag t =>
      simp only [extend, List.filterMap_cons, List.countP_cons, List.any_cons, Piece.margin?,
        Piece.isTag, Piece.isVisible, Bool.or_false, Bool.false_or, if_true, Option.toList_none,
        List.nil_append, LinePrefix.mk.injEq, true_and, and_true]
      omega

/-- The prefix of a tag is what its line is extended to, turned round. -/
theorem turned_foldl_extend (pieces : List Piece) :
    (pieces.foldl extend {}).turned = ofPieces pieces := by
  -- The blanks were put together backwards.
  simp [foldl_extend, turned, ofPieces]

end LinePrefix

/-- The offsets of a tag. -/
def Tag.span (tag : Tag) : Span := ⟨tag.start, tag.stop⟩

/-- The element a tag stands for, given what its line was extended to before it. -/
def Tag.toFlat (tag : Tag) (before : LinePrefix) : Flat :=
  match tag.sigil with
  | .plain => .leaf (.variable true tag.body tag.span)
  | .ampersand => .leaf (.variable false tag.body tag.span)
  | .brace => .leaf (.variable false tag.body tag.span)
  | .opener => .opening false tag.body tag.span
  | .inverter => .opening true tag.body tag.span
  | .closer => .closing tag.body tag.start
  | .inclusion => .leaf (.inclusion tag.body tag.span before.turned)
  | .comment => .leaf (.comment tag.body tag.span)
  | .switch => .leaf (.switch tag.body tag.span)

namespace Piece

/-- Whether a piece leaves no trace of its own in the output: a blank, or a tag of other use. -/
def isSilent : Piece → Bool
  | .char c _ => Text.isBlank c
  | .tag t => !t.sigil.interpolates

/-- The lines of a row of pieces, each with the character that ends it. -/
def lines : List Piece → List (List Piece)
  | [] => []
  | piece :: rest =>
    if piece.endsLine then [piece] :: lines rest
    else
      match lines rest with
      | [] => [[piece]]
      | line :: later => (piece :: line) :: later

/-- A standalone line holds a tag and nothing that shows. -/
def standalone (line : List Piece) : Bool := line.any isTag && line.all isSilent

/-- The elements of the rest of a line, with or without its text, given what stands before it. -/
def lineFlats (keepsText : Bool) (before : LinePrefix) : List Piece → List Flat
  | [] => []
  | .char c offset :: rest =>
    let later := lineFlats keepsText (before.extend (.char c offset)) rest
    if keepsText then .leaf (.text [c] ⟨offset, offset + 1⟩) :: later else later
  | .tag t :: rest => t.toFlat before :: lineFlats keepsText (before.extend (.tag t)) rest

/-- The elements of a row of pieces, without the text of standalone lines. -/
def flats (pieces : List Piece) : List Flat :=
  (lines pieces).flatMap fun line => lineFlats (!standalone line) {} line

end Piece

namespace Flat

/-- The same elements with neighbouring texts written as one. -/
def merge : List Flat → List Flat
  | [] => []
  | .leaf (.text value span) :: rest =>
    match merge rest with
    | .leaf (.text more later) :: others =>
      .leaf (.text (value ++ more) ⟨span.start, later.stop⟩) :: others
    | others => .leaf (.text value span) :: others
  | flat :: rest => flat :: merge rest

end Flat

end Mustache
