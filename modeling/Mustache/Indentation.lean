import Mustache.Text

/-! Indenting the lines of a template that is included on an indented line. -/

namespace Mustache.Indentation

/-- The part of an indentation that is put before lines: its spaces and tabs. -/
def margin (indentation : Text) : Text :=
  indentation.filter fun c => c = ' ' || c = '\t'

/-- A line behind a margin, unless there is nothing on it. -/
def indentLine (margin line : Text) : Text :=
  if line = [] then [] else margin ++ line

/-- A template with all its lines indented, but not the first if it continues a line with text. -/
def indent (template indentation : Text) (continuesText : Bool) : Text :=
  let margin := margin indentation
  let (first, others) := Text.pieces '\n' template
  Text.join '\n' (if continuesText then first else indentLine margin first)
    (others.map (indentLine margin))

end Mustache.Indentation
