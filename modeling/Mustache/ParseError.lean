import Mustache.Location
import Mustache.Text.Quoted

/-! What can be wrong with a template, and the report of it with a place in the source. -/

namespace Mustache

/-- A report of a malformed template or of unusable delimiters. -/
structure ParseError where
  /-- What is wrong, without the place. -/
  message : Text
  /-- The offset of the place, if it is known. -/
  offset : Option Int
  /-- The line of the place, if it is known. -/
  line : Option Int
  /-- The column of the place, if it is known. -/
  column : Option Int
  deriving DecidableEq, Repr

namespace ParseError

/-- A report without a place. -/
def unplaced (message : Text) : ParseError := ⟨message, none, none, none⟩

/-- The place of an error, known when both its line and its column are. -/
def location (e : ParseError) : Option Location :=
  match e.line, e.column with
  | some line, some column => some ⟨line, column, e.offset.getD 0⟩
  | _, _ => none

/-- The whole report: the message after as much of the place as is known. -/
def toText (e : ParseError) : Text :=
  match e.location, e.line with
  | some place, _ => place.toText ++ ' ' :: e.message
  | none, some line => Text.ofInt line ++ ' ' :: e.message
  | none, none => e.message

end ParseError

/-- A way for a template to be malformed, with the offset at which that shows. -/
inductive Fault where
  /-- A tag is not closed before the end. -/
  | unclosedTag (offset : Nat)
  /-- A closing tag has no open section. -/
  | unopenedSection (name : Text) (offset : Nat)
  /-- The innermost open section is not the one being closed, or is open at the end. -/
  | unclosedSection (name : Text) (offset : Nat)
  /-- A change of delimiters does not give two words. -/
  | invalidTags (words : List Text) (offset : Nat)
  deriving DecidableEq, Repr

namespace Fault

/-- The offset at which a fault shows. -/
def offset : Fault → Nat
  | .unclosedTag offset => offset
  | .unopenedSection _ offset => offset
  | .unclosedSection _ offset => offset
  | .invalidTags _ offset => offset

/-- The message for values that cannot serve as delimiters, given in their written form. -/
def invalidTagsMessage (shown : Text) : Text := .ofString "Invalid tags: " ++ shown

/-- A name between double quotes. -/
def named (name : Text) : Text := '"' :: name ++ ['"']

/-- A list of words in its written form. -/
def writtenWords (words : List Text) : Text :=
  '[' :: [',', ' '].intercalate (words.map Text.quoted) ++ [']']

/-- What a fault says. -/
def message : Fault → Text
  | .unclosedTag offset => .ofString "Unclosed tag at " ++ Text.ofInt offset
  | .unopenedSection name offset =>
    .ofString "Unopened section " ++ named name ++ .ofString " at " ++ Text.ofInt offset
  | .unclosedSection name offset =>
    .ofString "Unclosed section " ++ named name ++ .ofString " at " ++ Text.ofInt offset
  | .invalidTags words _ => invalidTagsMessage (writtenWords words)

/-- The report of a fault in a source. -/
def toError (fault : Fault) (source : Text) : ParseError :=
  let place := Location.ofOffset source fault.offset
  ⟨fault.message, some fault.offset, some place.line, some place.column⟩

end Fault

end Mustache
