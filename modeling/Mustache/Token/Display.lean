import Mustache.Token
import Mustache.Value.Display

/-! The written forms of tokens, with the name of every field. -/

namespace Mustache.Token

/-- A field of a written token. -/
def field (name : String) (shown : Text) : Text := .ofString name ++ '=' :: shown

/-- A truth value in its written form. -/
def shownBool (b : Bool) : Text := Value.literal (.bool b)

/-- The two offsets of a written token. -/
def shownSpan (span : Span) : List Text :=
  [field "start" (Text.ofInt span.start), field "end" (Text.ofInt span.stop)]

/-- A token in its written form, from the name of its type and its fields. -/
def shown (typeName : String) (fields : List Text) : Text :=
  Value.enclosed (.ofString typeName ++ ['(']) fields [')']

mutual

/-- The written form of a token. -/
def literal : Token → Text
  | .text value span => shown "Text" (field "value" (Text.quoted value) :: shownSpan span)
  | .variable escaped path span =>
    shown (if escaped then "Name" else "Unescaped")
      (field "path" (Text.quoted path) :: shownSpan span)
  | .comment value span => shown "Comment" (field "value" (Text.quoted value) :: shownSpan span)
  | .switch value span =>
    shown "DelimiterSet" (field "value" (Text.quoted value) :: shownSpan span)
  | .inclusion name span line =>
    shown "Partial"
      (field "name" (Text.quoted name) :: shownSpan span ++
        [ field "indentation" (Text.quoted line.indentation),
          field "tag_index" (Text.ofInt line.tagIndex),
          field "line_has_non_space" (shownBool line.hasText) ])
  | .block inverted name span children closeStart =>
    shown (if inverted then "Inverted" else "Section")
      (field "name" (Text.quoted name) :: shownSpan span ++
        [ field "children" (Value.tupleText (literals children)),
          field "close_start" (Text.ofInt closeStart) ])

/-- The written forms of a row of tokens. -/
def literals : List Token → List Text
  | [] => []
  | token :: tokens => literal token :: literals tokens

end

end Mustache.Token
