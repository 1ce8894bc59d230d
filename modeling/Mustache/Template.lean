import Mustache.Template.Nesting

/-!
Parsing: the token tree of a source, or the first thing that is wrong with it in reading order.

The source is cut into pieces, the pieces into lines, and the elements of the lines are merged and
nested.
-/

namespace Mustache.Template

/-- The first thing that is wrong with a source, if anything is. -/
def fault? (source : Text) (pair : Delimiters) : Option Fault :=
  let reading := Reading.ofSource source pair
  match Piece.openAfter [] reading.pieces with
  -- A closing tag that does not match was read before whatever ended the reading.
  | .error fault => some fault
  | .ok stack =>
    match reading.fault, stack with
    | some fault, _ => some fault
    | none, innermost :: _ => some (.unclosedSection innermost.body source.length)
    | none, [] => none

/-- The token tree of the pieces of a source. -/
def tokens (source : Text) (pair : Delimiters) : List Token :=
  Flat.nest (Flat.merge (Piece.flats (Reading.ofSource source pair).pieces))

/-- Parse a source with the given delimiters. -/
def parse (source : Text) (pair : Delimiters) : Except Fault (List Token) :=
  match fault? source pair with
  | some fault => .error fault
  | none => .ok (tokens source pair)

/-- A change of delimiters: the new pair, and the offset of the tag. -/
structure Switch where
  /-- The delimiters from the end of the tag on. -/
  pair : Delimiters
  /-- The offset of the tag. -/
  start : Nat
  deriving DecidableEq

/-- The change of delimiters that a piece makes, if it is such a tag. -/
def switch? : Piece → Option Switch
  | .tag ⟨.switch, body, start, _⟩ => (Delimiters.ofBody? body).map (⟨·, start⟩)
  | _ => none

/-- The changes of delimiters that take effect before parsing ends or fails. -/
def switches (source : Text) (pair : Delimiters) : List Switch :=
  let found := (Reading.ofSource source pair).pieces.filterMap switch?
  match fault? source pair with
  | some fault => found.filter (·.start < fault.offset)
  | none => found

/-- The delimiters in use when parsing has ended or failed. -/
def delimitersAfter (source : Text) (pair : Delimiters) : Delimiters :=
  match (switches source pair).getLast? with
  | some switch => switch.pair
  | none => pair

end Mustache.Template
