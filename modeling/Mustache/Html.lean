import Mustache.Text

/-! Escaping of texts for HTML, safe in elements and in attributes with any quotes or none. -/

namespace Mustache.Html

/-- The characters that have to be escaped, each with the entity that stands for it. -/
def entities : List (Char × Text) :=
  [ ('&', .ofString "&amp;"),
    ('<', .ofString "&lt;"),
    ('>', .ofString "&gt;"),
    ('"', .ofString "&quot;"),
    ('\'', .ofString "&#39;"),
    ('/', .ofString "&#x2F;"),
    ('\x60', .ofString "&#x60;"),
    ('=', .ofString "&#x3D;") ]

/-- The entity of a character that has one, and any other character itself. -/
def escapeChar (c : Char) : Text :=
  (entities.lookup c).getD [c]

/-- A text with every character that has an entity replaced by it. -/
def escape (t : Text) : Text := t.flatMap escapeChar

end Mustache.Html
