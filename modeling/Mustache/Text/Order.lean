import Mustache.Text

/-! The order of texts by code points, and rows sorted by a text of each element. -/

namespace Mustache.Text

/-- A sorted row with one more element, which goes before the first that does not precede it. -/
def insertBy {α : Type} (name : α → Text) (element : α) : List α → List α
  | [] => [element]
  | first :: rest =>
    if name element ≤ name first then element :: first :: rest
    else first :: insertBy name element rest

/-- The elements of a row in the order of a text of each; equal texts keep their order. -/
def sortBy {α : Type} (name : α → Text) : List α → List α
  | [] => []
  | first :: rest => insertBy name first (sortBy name rest)

end Mustache.Text
