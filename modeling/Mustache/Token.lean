import Mustache.Text

/-! The tokens of a parsed template, and equality of their trees. -/

namespace Mustache

/-- The offsets between which something stands in its source. -/
structure Span where
  /-- The offset of the first character. -/
  start : Int
  /-- The offset just past the last character. -/
  stop : Int
  deriving DecidableEq, Repr

/-- What stands before a tag on its line. -/
structure LinePrefix where
  /-- The text before the tag, with a space for every character that is not blank. -/
  indentation : Text := []
  /-- The number of tags before the tag. -/
  tagIndex : Int := 0
  /-- Whether the text before the tag has a character that is not blank. -/
  hasText : Bool := false
  deriving DecidableEq, Repr

/-- A part of a template. -/
inductive Token where
  /-- Text that is written as it is. -/
  | text (value : Text) (span : Span)
  /-- A name whose value is written, escaped or as it is. -/
  | variable (escaped : Bool) (path : Text) (span : Span)
  /-- A comment, which writes nothing. -/
  | comment (value : Text) (span : Span)
  /-- A change of delimiters, which writes nothing. -/
  | switch (value : Text) (span : Span)
  /-- A reference to another template, with what stands before it on its line. -/
  | inclusion (name : Text) (span : Span) (line : LinePrefix)
  /-- A section, or its inversion, with the offset of its closing tag. -/
  | block (inverted : Bool) (name : Text) (span : Span) (children : List Token) (closeStart : Int)
  deriving Repr

namespace Token

mutual

/-- Whether two tokens are equal. -/
def same : Token → Token → Bool
  | .text value span, .text value' span' => value == value' && span == span'
  | .variable escaped path span, .variable escaped' path' span' =>
    escaped == escaped' && path == path' && span == span'
  | .comment value span, .comment value' span' => value == value' && span == span'
  | .switch value span, .switch value' span' => value == value' && span == span'
  | .inclusion name span line, .inclusion name' span' line' =>
    name == name' && span == span' && line == line'
  | .block inverted name span children closeStart,
    .block inverted' name' span' children' closeStart' =>
    inverted == inverted' && name == name' && span == span' && sameAll children children'
      && closeStart == closeStart'
  | _, _ => false

/-- Whether two rows of tokens are equal. -/
def sameAll : List Token → List Token → Bool
  | [], [] => true
  | token :: tokens, token' :: tokens' => same token token' && sameAll tokens tokens'
  | _, _ => false

end

mutual

/-- The comparison of tokens decides their equality. -/
theorem same_iff (left right : Token) : same left right = true ↔ left = right := by
  -- Tokens of different kinds differ, and those of one kind are compared field by field.
  match left with
  | .text .. => cases right <;> simp [same]
  | .variable .. => cases right <;> simp [same, and_assoc]
  | .comment .. => cases right <;> simp [same]
  | .switch .. => cases right <;> simp [same]
  | .inclusion .. => cases right <;> simp [same, and_assoc]
  | .block _ _ _ children _ =>
    cases right with
    | block _ _ _ children' _ => simp [same, sameAll_iff children children', and_assoc]
    | _ => simp [same]

/-- The comparison of rows of tokens decides their equality. -/
theorem sameAll_iff (left right : List Token) : sameAll left right = true ↔ left = right := by
  -- Rows are compared token by token.
  match left, right with
  | [], [] => simp [sameAll]
  | [], _ :: _ => simp [sameAll]
  | _ :: _, [] => simp [sameAll]
  | token :: tokens, token' :: tokens' =>
    simp [sameAll, same_iff token token', sameAll_iff tokens tokens']

end

instance : DecidableEq Token := fun left right =>
  decidable_of_iff (same left right = true) (same_iff left right)

end Token

end Mustache
