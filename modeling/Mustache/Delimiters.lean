import Mustache.ParseError
import Mustache.Value.Display

/-! The pair of texts between which a tag stands. -/

namespace Mustache

/-- The texts that open and close a tag, neither of them empty. -/
structure Delimiters where
  /-- The text a tag begins with. -/
  opening : Text
  /-- The text a tag ends with. -/
  closing : Text
  /-- A tag begins with at least one character. -/
  opening_ne_nil : opening ≠ [] := by decide
  /-- A tag ends with at least one character. -/
  closing_ne_nil : closing ≠ [] := by decide
  deriving DecidableEq

namespace Delimiters

/-- Two braces on either side. -/
def default : Delimiters where
  opening := ['\x7b', '\x7b']
  closing := ['\x7d', '\x7d']

/-- The pair that two words make, if there are two and neither is empty. -/
def ofWords? : List Text → Option Delimiters
  | [opening, closing] =>
    if valid : opening ≠ [] ∧ closing ≠ [] then some ⟨opening, closing, valid.1, valid.2⟩ else none
  | _ => none

/-- The pair that the first two words of the body of a tag make. -/
def ofBody? (body : Text) : Option Delimiters := ofWords? (Text.firstWords body)

/-- The texts of a list of values, if it holds nothing else. -/
def texts? : List Value → Option (List Text)
  | [] => some []
  | .text t :: rest => (texts? rest).map (t :: ·)
  | _ :: _ => none

/-- The report that a value cannot serve as delimiters. -/
def refused (shown : Text) : ParseError := .unplaced (Fault.invalidTagsMessage shown)

/--
The pair a value gives: the first two words of a text, or a list or tuple of two texts.

A text is reported as the list of its words, and any other value as it is.
-/
def ofValue (value : Value) : Except ParseError Delimiters :=
  let (words, shown) := match value with
    | .text t => (Text.firstWords t, Fault.writtenWords (Text.firstWords t))
    | .list items => ((texts? items).getD [], value.literal)
    | .tuple items => ((texts? items).getD [], value.literal)
    | _ => ([], value.literal)
  match ofWords? words with
  | some pair => .ok pair
  | none => .error (refused shown)

/-- The pair of texts as a value. -/
def toValue (pair : Delimiters) : Value := .tuple [.text pair.opening, .text pair.closing]

end Delimiters

end Mustache
